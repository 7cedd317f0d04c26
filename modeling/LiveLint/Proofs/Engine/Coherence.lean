import LiveLint.Proofs.Engine.Queues
import LiveLint.Proofs.Revision.Tracking

/-!
# What calls, trees and revisions say about each other

Every call was recorded for its own text, the tree of a file is the one of its last analyzed revision,
and whatever a call holds or answers is about its revision. A call that was overtaken stays overtaken.
-/

namespace LiveLint

/-- A parse answers a tree of the very revision it was given. -/
theorem Parser.tree_parse (p : Parser) (r : Revision) (previous : Option Tree) (reply : NativeReply)
    (crash : Option String) :
    (p.parse r previous reply crash).tree.revision = r.number ∧
      (p.parse r previous reply crash).tree.source = r.text := by
  have scanned (p : Parser) (profile : Profile) (base : Option Tree) (arena : Nat) :
      (p.scan r profile base arena crash).2.1.revision = r.number ∧
        (p.scan r profile base arena crash).2.1.source = r.text := by
    unfold scan
    split <;> exact ⟨rfl, rfl⟩
  unfold parse
  split
  · exact ⟨rfl, rfl⟩
  · dsimp only
    split
    · split
      · split
        · exact ⟨rfl, rfl⟩
        · exact scanned ..
      · exact scanned ..
    · exact scanned ..

/-- What a call holds or answers is about its request and its revision. -/
def CallStage.Fits (stage : CallStage) (t : Tracker) (request : AnalysisRequest) (r : Revision) :
    Prop :=
  match stage with
  | .detecting tree _ | .refining tree _ _ => tree.revision = r.number ∧ tree.source = r.text
  | .finished (.ok result) =>
    result.file = request.file ∧ result.revision = r.number ∧
      (result.status = .superseded → result.issues = [] ∧ t.Overtaken r)
  | _ => True

structure Revision.IsOf (r : Revision) (t : Tracker) (request : AnalysisRequest) : Prop where
  known : t.Knows r
  file : r.file = request.file
  text : r.text = request.code

/-- A call that did not fail was recorded, and its stage fits it. -/
structure Call.Coherent (c : Call) (t : Tracker) : Prop where
  recorded : (∀ fault, c.stage ≠ .finished (.error fault)) → c.revision.IsOf t c.request
  fits : c.stage.Fits t c.request c.revision

theorem CallStage.Fits.record {stage : CallStage} {t : Tracker} {request : AnalysisRequest}
    {r : Revision} (fits : stage.Fits t request r) (file text : String)
    (ranges : Option (List HostRange)) (language : String) :
    stage.Fits (t.record file text ranges language).1 request r := by
  unfold CallStage.Fits at fits ⊢
  split
  · exact fits
  · exact fits
  · obtain ⟨filed, number, overtaken⟩ := fits
    refine ⟨filed, number, ?_⟩
    intro status
    exact ⟨(overtaken status).1, (overtaken status).2.record file text ranges language⟩
  · trivial

theorem CallStage.Fits.markAnalyzed {stage : CallStage} {t : Tracker} {request : AnalysisRequest}
    {r : Revision} (fits : stage.Fits t request r) (marked : Revision) :
    stage.Fits (t.markAnalyzed marked).1 request r := by
  unfold CallStage.Fits at fits ⊢
  split
  · exact fits
  · exact fits
  · obtain ⟨filed, number, overtaken⟩ := fits
    refine ⟨filed, number, ?_⟩
    intro status
    exact ⟨(overtaken status).1, (overtaken status).2.markAnalyzed marked⟩
  · trivial

namespace Session

variable {σ : Type}

/-- Calls, trees and revisions agree. -/
structure Coherent (s : Session σ) : Prop where
  keyed : s.engine.tracker.Keyed
  analyzed : ∀ file r, s.engine.tracker.analyzed.get? file = some r →
    r.file = file ∧ s.engine.tracker.Knows r
  stored : ∀ file tree, s.engine.trees.get? file = some tree →
    ∃ r, s.engine.tracker.analyzed.get? file = some r ∧ tree.revision = r.number ∧
      tree.source = r.text
  sincere : ∀ q ∈ s.engine.detector.queries, q.Sincere
  call : ∀ (t : Nat) (c : Call), s.calls[t]? = some c → c.Coherent s.engine.tracker

namespace Coherent

variable {s s' : Session σ} {i : Nat} {c : Call}

/-- What a call carries in its stage fits its request and its revision. -/
theorem fits (coherent : s.Coherent) (call : s.calls[i]? = some c) {stage : CallStage}
    (here : c.stage = stage) : stage.Fits s.engine.tracker c.request c.revision := by
  have fitting := (coherent.call i c call).fits
  rw [here] at fitting
  exact fitting

theorem congr (coherent : s.Coherent) (calls : s'.calls = s.calls)
    (tracker : s'.engine.tracker = s.engine.tracker) (trees : s'.engine.trees = s.engine.trees)
    (queries : s'.engine.detector.queries = s.engine.detector.queries) : s'.Coherent where
  keyed := by
    rw [tracker]
    exact coherent.keyed
  analyzed := by
    rw [tracker]
    exact coherent.analyzed
  stored := by
    rw [tracker, trees]
    exact coherent.stored
  sincere := by
    rw [queries]
    exact coherent.sincere
  call := by
    rw [tracker, calls]
    exact coherent.call

theorem record (coherent : s.Coherent) (file text : String) (ranges : Option (List HostRange))
    (language : String) :
    Coherent
      { s with
        engine := { s.engine with
          tracker := (s.engine.tracker.record file text ranges language).1 } } where
  keyed := coherent.keyed.record file text ranges language
  analyzed := by
    intro other r found
    rw [Tracker.analyzed_record] at found
    obtain ⟨filed, known⟩ := coherent.analyzed other r found
    exact ⟨filed, known.record file text ranges language⟩
  stored := by
    intro other tree found
    rw [Tracker.analyzed_record]
    exact coherent.stored other tree found
  sincere := coherent.sincere
  call := by
    intro t c found
    obtain ⟨recorded, fits⟩ := coherent.call t c found
    refine ⟨?_, fits.record file text ranges language⟩
    intro sound
    obtain ⟨known, filed, texts⟩ := recorded sound
    exact ⟨known.record file text ranges language, filed, texts⟩

/-- A text that comes in while a file is parsed does not touch what was analyzed. -/
theorem recordIn (coherent : s.Coherent) (m : Meanwhile) (file : String) :
    Coherent { s with engine := { s.engine with tracker := m.recordIn s.engine.tracker file } } ∧
      (m.recordIn s.engine.tracker file).analyzed = s.engine.tracker.analyzed := by
  unfold Meanwhile.recordIn
  cases m.edit with
  | none => exact ⟨coherent, rfl⟩
  | some text => exact ⟨coherent.record file text none "", Tracker.analyzed_record ..⟩

/-- The tree of the latest revision is kept, and the revision counts as analyzed. -/
theorem markAnalyzed (coherent : s.Coherent) {r : Revision}
    (latest : s.engine.tracker.latest.get? r.file = some r) {tree : Tree}
    (number : tree.revision = r.number) (text : tree.source = r.text) :
    Coherent
      { s with
        engine := { s.engine with
          trees := s.engine.trees.set r.file tree
          tracker := (s.engine.tracker.markAnalyzed r).1 } } := by
  have marked := Tracker.analyzed_markAnalyzed_self
    (fun a found => coherent.analyzed r.file a found) latest
  refine
    { keyed := coherent.keyed.markAnalyzed r
      analyzed := ?_
      stored := ?_
      sincere := coherent.sincere
      call := ?_ }
  · intro file a found
    by_cases same : file = r.file
    · subst same
      rw [marked] at found
      cases found
      exact ⟨rfl, Tracker.Knows.markAnalyzed ⟨r, latest, Or.inl rfl⟩ r⟩
    · rw [Tracker.analyzed_markAnalyzed_of_ne _ same] at found
      obtain ⟨filed, known⟩ := coherent.analyzed file a found
      exact ⟨filed, known.markAnalyzed r⟩
  · intro file kept found
    by_cases same : file = r.file
    · subst same
      rw [Table.get?_set_self] at found
      cases found
      exact ⟨r, marked, number, text⟩
    · rw [Table.get?_set_of_ne _ _ same] at found
      rw [Tracker.analyzed_markAnalyzed_of_ne _ same]
      exact coherent.stored file kept found
  · intro t c found
    obtain ⟨recorded, fits⟩ := coherent.call t c found
    refine ⟨?_, fits.markAnalyzed r⟩
    intro sound
    obtain ⟨known, filed, texts⟩ := recorded sound
    exact ⟨known.markAnalyzed r, filed, texts⟩

theorem moveTo (coherent : s.Coherent) (call : s.calls[i]? = some c)
    (unfinished : c.stage.isFinished = false) {stage : CallStage}
    (fits : stage.Fits s.engine.tracker c.request c.revision) : (s.moveTo i stage).Coherent where
  keyed := coherent.keyed
  analyzed := coherent.analyzed
  stored := coherent.stored
  sincere := coherent.sincere
  call := by
    intro t c' found
    by_cases same : t = i
    · subst t
      rw [getElem?_moveTo_self call] at found
      cases found
      refine ⟨fun _ => (coherent.call i c call).recorded ?_, fits⟩
      intro fault closed
      rw [closed] at unfinished
      cases unfinished
    · rw [getElem?_moveTo_of_ne s same] at found
      exact coherent.call t c' found

theorem opened (coherent : s.Coherent) {request : AnalysisRequest} {revision : Revision}
    (stage : CallStage)
    (recorded : (∀ fault, stage ≠ .finished (.error fault)) →
      revision.IsOf s.engine.tracker request)
    (fits : stage.Fits s.engine.tracker request revision) (meanwhile : Meanwhile) :
    (s.opened request meanwhile revision stage).Coherent where
  keyed := coherent.keyed
  analyzed := coherent.analyzed
  stored := coherent.stored
  sincere := coherent.sincere
  call := by
    intro t c found
    by_cases new : t = s.calls.size
    · rw [new, getElem?_opened_self] at found
      cases found
      exact ⟨recorded, fits⟩
    · rw [getElem?_opened_of_ne s new] at found
      exact coherent.call t c found

end Coherent

end Session

end LiveLint
