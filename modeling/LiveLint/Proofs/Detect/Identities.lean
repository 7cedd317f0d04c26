import LiveLint.Detect.Queries
import LiveLint.Proofs.Detect.Assignment
import LiveLint.Proofs.Detect.Likeness

/-!
# Identities are unique

An identity is the digest of a message that joins the file, the place of a match and its ordinal there by a
separator. The separator is blank, so no line collapsed to its words has it, and no built-in kind does. The names
of functions may have it, but they stand in the middle of the message, which is taken apart from both ends.
Ordinals count the matches at one place, so no two matches have one message. The order of matches and of functions
does not matter, since both are sorted first.
-/

namespace LiveLint

namespace Text

/-- Words have no blanks. -/
theorem not_isBlank_of_mem_words {cs word : List Char} (member : word ∈ words cs) :
    ∀ c ∈ word, isBlank c = false := by
  replace member := (List.mem_filter.1 member).1
  induction cs generalizing word with
  | nil =>
    rw [List.splitOnP_nil, List.mem_singleton] at member
    rw [member]
    exact List.forall_mem_nil _
  | cons c rest ih =>
    rw [List.splitOnP_cons_eq_if_modifyHead] at member
    by_cases blank : isBlank c = true
    · rw [if_pos blank] at member
      rcases List.mem_cons.1 member with rfl | later
      · exact List.forall_mem_nil _
      · exact ih later
    · rw [if_neg blank] at member
      obtain ⟨first, others, pieces⟩ := List.exists_cons_of_ne_nil (List.splitOnP_ne_nil isBlank rest)
      rw [pieces, List.modifyHead_cons] at member
      rcases List.mem_cons.1 member with rfl | later
      · exact List.forall_mem_cons.2
          ⟨Bool.eq_false_iff.2 blank, ih (pieces ▸ List.mem_cons_self)⟩
      · exact ih (pieces ▸ List.mem_cons_of_mem _ later)

/-- Joined texts have the characters of the texts and of what joins them. -/
theorem mem_of_mem_intercalate {glue : List Char} {texts : List (List Char)} {c : Char}
    (member : c ∈ glue.intercalate texts) : c ∈ glue ∨ ∃ text ∈ texts, c ∈ text := by
  induction texts with
  | nil => cases member
  | cons text rest ih =>
    cases rest with
    | nil =>
      rw [List.intercalate_singleton] at member
      exact Or.inr ⟨text, List.mem_cons_self, member⟩
    | cons next others =>
      rw [List.intercalate_cons_cons, List.append_assoc] at member
      rcases List.mem_append.1 member with here | member
      · exact Or.inr ⟨text, List.mem_cons_self, here⟩
      · rcases List.mem_append.1 member with joins | later
        · exact Or.inl joins
        · rcases ih later with joins | ⟨text', among, inside⟩
          · exact Or.inl joins
          · exact Or.inr ⟨text', List.mem_cons_of_mem _ among, inside⟩

/-- A collapsed text has no blanks but spaces. -/
theorem eq_space_of_mem_collapse {cs : List Char} {c : Char} (member : c ∈ collapse cs)
    (blank : isBlank c = true) : c = ' ' := by
  rcases mem_of_mem_intercalate member with joins | ⟨word, among, inside⟩
  · exact List.mem_singleton.1 joins
  · rw [not_isBlank_of_mem_words among c inside] at blank
    cases blank

end Text

namespace Identity

/-! ## Messages -/

/-- The message whose digest is an identity. -/
def message (file : String) (place : Place) (ordinal : Nat) : ByteArray :=
  ("\x1f".intercalate [file, place.1, place.2.1, place.2.2, toString (ordinal : Int)]).toUTF8

/-- A place that has the separator nowhere but in its scope. -/
structure Place.Clean (place : Place) : Prop where
  kind : '\x1f' ∉ place.1.toList
  anchor : '\x1f' ∉ place.2.2.toList

/-- The last occurrence of a separator takes a text apart in one way only. -/
theorem split_at_last {c : Char} {xs xs' ys ys' : List Char} (clean : c ∉ ys) (clean' : c ∉ ys')
    (same : xs ++ c :: ys = xs' ++ c :: ys') : xs = xs' ∧ ys = ys' := by
  have backwards := congrArg List.reverse same
  rw [List.reverse_append, List.reverse_append, List.reverse_cons, List.reverse_cons, List.append_assoc,
    List.append_assoc] at backwards
  obtain ⟨ends, fronts⟩ := RootSource.split_at_first (fun member => clean (List.mem_reverse.1 member))
    (fun member => clean' (List.mem_reverse.1 member)) backwards
  exact ⟨List.reverse_inj.1 fronts, List.reverse_inj.1 ends⟩

theorem not_mem_toString_ordinal (n : Nat) : '\x1f' ∉ (toString (n : Int)).toList := by
  intro member
  change '\x1f' ∈ (Nat.repr n).toList at member
  rw [Nat.toList_repr] at member
  have digit := Nat.isDigit_of_mem_toDigits (by decide) (by decide) member
  revert digit
  decide

/-- The message of a clean place determines the place and the ordinal. -/
theorem message_inj {file : String} {p q : Place} {n k : Nat} (clean : p.Clean) (clean' : q.Clean)
    (same : message file p n = message file q k) : p = q ∧ n = k := by
  obtain ⟨kind, scope, anchor⟩ := p
  obtain ⟨kind', scope', anchor'⟩ := q
  unfold message at same
  dsimp only at same
  rw [String.toUTF8_eq_toByteArray, String.toUTF8_eq_toByteArray, String.toByteArray_inj] at same
  have texts := congrArg String.toList same
  simp only [String.toList_intercalate, List.map_cons, List.map_nil, List.intercalate_cons_cons,
    List.intercalate_singleton, List.append_assoc] at texts
  change _ ++ '\x1f' :: (kind.toList ++ '\x1f' :: (scope.toList ++ '\x1f' :: (anchor.toList ++ '\x1f' :: _))) =
    _ ++ '\x1f' :: (kind'.toList ++ '\x1f' :: (scope'.toList ++ '\x1f' :: (anchor'.toList ++ '\x1f' :: _))) at texts
  replace texts := List.cons.inj (List.append_cancel_left texts) |>.2
  obtain ⟨kinds, texts⟩ := RootSource.split_at_first clean.kind clean'.kind texts
  -- Only the scope may have separators, so what follows it is taken off from behind.
  rw [← List.cons_append, ← List.append_assoc, ← List.cons_append, ← List.append_assoc] at texts
  obtain ⟨texts, ordinals⟩ :=
    split_at_last (not_mem_toString_ordinal n) (not_mem_toString_ordinal k) texts
  obtain ⟨scopes, anchors⟩ := split_at_last clean.anchor clean'.anchor texts
  refine ⟨?_, Nat.repr_injective (String.toList_inj.1 ordinals)⟩
  exact Prod.ext (String.toList_inj.1 kinds)
    (Prod.ext (String.toList_inj.1 scopes) (String.toList_inj.1 anchors))

/-- Places of matches of built-in kinds are clean. -/
theorem clean_placeOf {m : Match} (builtIn : m.kind ∈ Query.builtIn.map (·.kind)) (lines : List (List Char))
    (functions : List NamedFunction) : (placeOf lines functions m).Clean where
  kind := by
    have all : ∀ kind ∈ Query.builtIn.map (·.kind), '\x1f' ∉ kind.toList := by decide
    exact all m.kind builtIn
  anchor := by
    show '\x1f' ∉ (anchor lines m.range.startLine).toList
    unfold anchor
    split
    · split
      · rw [String.toList_ofList]
        exact fun member => absurd (Text.eq_space_of_mem_collapse member (by decide)) (by decide)
      · exact List.not_mem_nil
    · exact List.not_mem_nil

/-! ## Numbering -/

variable (file language : String) (lines : List (List Char)) (functions : List NamedFunction)

def numbered : List Place → List Match → List (Place × Nat)
  | _, [] => []
  | seen, m :: rest =>
    (placeOf lines functions m, seen.count (placeOf lines functions m)) ::
      numbered (placeOf lines functions m :: seen) rest

/-- The messages whose digests become the identities of matches. -/
def messages (ms : List Match) : List ByteArray :=
  (numbered lines functions [] (ms.mergeSort matchLe)).map fun x => message file x.1 x.2

/-- What a match was before it got its identity. -/
def found (o : Occurrence) : Match := ⟨o.kind, o.range, o.severity, o.metadata⟩

theorem identities_assignFrom (seen : List Place) (ms : List Match) :
    (assignFrom file language lines functions seen ms).map (·.identity) =
      (numbered lines functions seen ms).map fun x => Digest.sha256 (message file x.1 x.2) := by
  induction ms generalizing seen with
  | nil => rfl
  | cons m rest ih =>
    rw [assignFrom_cons, List.map_cons, numbered, List.map_cons, ih]
    rfl

theorem found_assignFrom (seen : List Place) (ms : List Match) :
    (assignFrom file language lines functions seen ms).map found = ms := by
  induction ms generalizing seen with
  | nil => rfl
  | cons m rest ih =>
    rw [assignFrom_cons, List.map_cons, ih]
    rfl

/-- Ordinals go on from where the places before end. -/
theorem count_le_of_mem_numbered {seen : List Place} {ms : List Match} {place : Place} {n : Nat}
    (member : (place, n) ∈ numbered lines functions seen ms) : seen.count place ≤ n := by
  induction ms generalizing seen with
  | nil => cases member
  | cons m rest ih =>
    rcases List.mem_cons.1 member with same | later
    · cases same
      exact Nat.le_refl _
    · exact Nat.le_trans (List.count_le_count_cons) (ih later)

/-- No place has an ordinal twice. -/
theorem nodup_numbered (seen : List Place) (ms : List Match) : (numbered lines functions seen ms).Nodup := by
  induction ms generalizing seen with
  | nil => exact .nil
  | cons m rest ih =>
    refine List.nodup_cons.2 ⟨fun again => ?_, ih _⟩
    have beyond := count_le_of_mem_numbered lines functions again
    rw [List.count_cons_self] at beyond
    omega

theorem clean_of_mem_numbered {seen : List Place} {ms : List Match}
    (builtIn : ∀ m ∈ ms, m.kind ∈ Query.builtIn.map (·.kind)) :
    ∀ x ∈ numbered lines functions seen ms, x.1.Clean := by
  induction ms generalizing seen with
  | nil => exact List.forall_mem_nil _
  | cons m rest ih =>
    exact List.forall_mem_cons.2 ⟨clean_placeOf (builtIn m List.mem_cons_self) lines functions,
      ih fun m member => builtIn m (List.mem_cons_of_mem _ member)⟩

/-- No two matches of built-in kinds have one message. -/
theorem nodup_messages {ms : List Match} (builtIn : ∀ m ∈ ms, m.kind ∈ Query.builtIn.map (·.kind)) :
    (messages file lines functions ms).Nodup := by
  have sorted : ∀ m ∈ ms.mergeSort matchLe, m.kind ∈ Query.builtIn.map (·.kind) :=
    fun m member => builtIn m (List.mem_mergeSort.1 member)
  have clean : ∀ x ∈ numbered lines functions [] (ms.mergeSort matchLe), x.1.Clean :=
    clean_of_mem_numbered lines functions sorted
  refine List.Nodup.map_on (fun x member y member' same => ?_) (nodup_numbered lines functions [] _)
  obtain ⟨place, ordinal⟩ := message_inj (clean x member) (clean y member') same
  exact Prod.ext place ordinal

/-! ## Order -/

theorem matchLe_antisymm {m n : Match} (first : matchLe m n = true) (second : matchLe n m = true) :
    m.range = n.range ∧ m.kind = n.kind := by
  rw [matchLe_iff] at first second
  have same := SourceRange.le_antisymm first.1 second.1
  exact ⟨same, String.le_antisymm (first.2 same) (second.2 same.symm)⟩

/-- A function as a match of its name, which is sorted in the same way. -/
def asMatch (f : NamedFunction) : Match := ⟨f.2, f.1, .low, []⟩

/-- Functions in another order are sorted to the same list. -/
theorem mergeSort_functions {functions functions' : List NamedFunction} (perm : functions'.Perm functions) :
    functions'.mergeSort functionLe = functions.mergeSort functionLe := by
  have sorted (functions : List NamedFunction) : (functions.mergeSort functionLe).Pairwise (functionLe · ·) :=
    List.pairwise_mergeSort (fun f g h => matchLe_trans (asMatch f) (asMatch g) (asMatch h))
      (fun f g => matchLe_total (asMatch f) (asMatch g)) functions
  refine List.Perm.eq_of_pairwise ?_ (sorted functions') (sorted functions)
    (((List.mergeSort_perm functions' _).trans perm).trans (List.mergeSort_perm functions _).symm)
  intro f g _ _ first second
  obtain ⟨range, name⟩ := @matchLe_antisymm (asMatch f) (asMatch g) first second
  exact Prod.ext range name

/-- Matches in another order are sorted to the same list if no two have one range and one kind. -/
theorem mergeSort_matches {ms ms' : List Match} (apart : (ms.map fun m => (m.range, m.kind)).Nodup)
    (perm : ms'.Perm ms) : ms'.mergeSort matchLe = ms.mergeSort matchLe := by
  have sorted (ms : List Match) := List.pairwise_mergeSort matchLe_trans matchLe_total ms
  refine List.Perm.eq_of_pairwise ?_ (sorted ms') (sorted ms)
    (((List.mergeSort_perm ms' _).trans perm).trans (List.mergeSort_perm ms _).symm)
  intro m n member member' first second
  obtain ⟨range, kind⟩ := matchLe_antisymm first second
  exact List.inj_on_of_nodup_map apart (perm.mem_iff.1 (List.mem_mergeSort.1 member))
    (List.mem_mergeSort.1 member') (Prod.ext range kind)

variable {functions}

/-- The order of the functions does not matter. -/
theorem assignFrom_perm {functions' : List NamedFunction} (perm : functions'.Perm functions)
    (seen : List Place) (ms : List Match) :
    assignFrom file language lines functions' seen ms = assignFrom file language lines functions seen ms := by
  have scopes (span : SourceRange) : scope span functions' = scope span functions := by
    unfold scope enclosing
    rw [mergeSort_functions perm]
  induction ms generalizing seen with
  | nil => rfl
  | cons m rest ih =>
    rw [assignFrom_cons, assignFrom_cons, ih]
    unfold occurrenceOf placeOf
    rw [scopes]

variable (functions)

/-- The occurrences of matches of built-in kinds have identities of their own, one for each match, and are sorted by
range and then by kind. If no two matches have one range and one kind, neither the order of the matches nor the order
of the functions matters. -/
theorem assign_unique (ms : List Match) (builtIn : ∀ m ∈ ms, m.kind ∈ Query.builtIn.map (·.kind))
    (apart : ∀ a ∈ messages file lines functions ms, ∀ b ∈ messages file lines functions ms,
      Digest.sha256 a = Digest.sha256 b → a = b) :
    let os := assign file language lines ms functions
    (os.map (·.identity)).Nodup ∧ (os.map found).Perm ms ∧
      os.Pairwise (fun o o' => o.range.le o'.range = true ∧ (o.range = o'.range → o.kind ≤ o'.kind)) ∧
      ((ms.map fun m => (m.range, m.kind)).Nodup → ∀ ms' functions', ms'.Perm ms → functions'.Perm functions →
        assign file language lines ms' functions' = os) := by
  intro os
  have matched : os.map found = ms.mergeSort matchLe := found_assignFrom file language lines functions [] _
  refine ⟨?_, ?_, ?_, fun alone ms' functions' perm perm' => ?_⟩
  · have identities : os.map (·.identity) = (messages file lines functions ms).map Digest.sha256 := by
      rw [messages, List.map_map]
      exact identities_assignFrom file language lines functions [] _
    rw [identities]
    exact List.Nodup.map_on apart (nodup_messages file lines functions builtIn)
  · rw [matched]
    exact List.mergeSort_perm ms matchLe
  · have sorted := List.pairwise_mergeSort matchLe_trans matchLe_total ms
    rw [← matched, List.pairwise_map] at sorted
    exact sorted.imp fun le => matchLe_iff.1 le
  · show assign file language lines ms' functions' = assign file language lines ms functions
    unfold assign
    rw [mergeSort_matches alone perm, assignFrom_perm file language lines perm']

/-- Two numbers on equal lines of a function whose name has the separator in it. -/
theorem assign_unique_equal_lines :
    let line := ['x', ' ', '=', ' ', '4']
    let ms : List Match := [⟨"magic-number", ⟨1, 4, 1, 5⟩, .low, []⟩, ⟨"magic-number", ⟨2, 4, 2, 5⟩, .low, []⟩]
    let functions : List NamedFunction := [(⟨1, 0, 2, 5⟩, "f\x1f0")]
    ((assign "a" "python" [line, line] ms functions).map (·.identity)).Nodup ∧
      assign "a" "python" [line, line] ms.reverse functions = assign "a" "python" [line, line] ms functions := by
  intro line ms functions
  have builtIn : ∀ m ∈ ms, m.kind ∈ Query.builtIn.map (·.kind) := by decide
  have sorted : ms.mergeSort matchLe = ms := List.mergeSort_of_pairwise (by decide +kernel)
  have inside : ∀ m ∈ ms, placeOf [line, line] functions m = ("magic-number", "f\x1f0", "x = 4") := by
    have around (m : Match)
        (held : (functions.filter fun f => f.1 != m.range && f.1.holdsStartOf m.range) = functions) :
        scope m.range functions = "f\x1f0" := by
      unfold scope enclosing
      rw [List.mergeSort_singleton, held]
      decide
    intro m member
    simp only [ms, List.mem_cons, List.not_mem_nil, or_false] at member
    unfold placeOf
    rcases member with rfl | rfl
    · rw [around _ (by decide)]
      decide +kernel
    · rw [around _ (by decide)]
      decide +kernel
  have taken : messages "a" [line, line] functions ms =
      [message "a" ("magic-number", "f\x1f0", "x = 4") 0, message "a" ("magic-number", "f\x1f0", "x = 4") 1] := by
    rw [messages, sorted]
    simp only [ms, numbered, inside, List.mem_cons, true_or, or_true, List.map_cons, List.map_nil]
    rfl
  obtain ⟨unique, -, -, ordered⟩ := assign_unique "a" "python" [line, line] functions ms builtIn (by
    rw [taken]
    decide +kernel)
  exact ⟨unique, ordered (by decide) ms.reverse functions (List.reverse_perm ms) (List.Perm.refl _)⟩

end Identity

end LiveLint
