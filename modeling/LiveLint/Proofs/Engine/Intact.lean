import LiveLint.Proofs.Detect.Transparency
import LiveLint.Proofs.Engine.Moves
import LiveLint.Proofs.Engine.WellTyped
import LiveLint.Proofs.Revision.Tracking

/-!
# What an engine relies on

An engine without a remote service relies on what it remembers: the trees of its files were made by its
parser, the results of its queries are true of those trees, and its intervals have doubles. Whatever is done
with it keeps that, one operation after the other.
-/

namespace LiveLint

/-- A configuration without a remote service, with values of the types that they are meant to have. -/
structure Config.Standalone (c : Config) : Prop where
  typed : c.WellTyped
  within : c.WithinDoubles
  offline : c.hasRemote = false
  thresholds : ∃ length parameters lines, c.settings = .whole length parameters lines

theorem Config.standalone_standard : Config.standard.Standalone :=
  ⟨wellTyped_standard, withinDoubles_standard, rfl, 50, 5, 5, rfl⟩

/-- What an engine relies on after its parser has read some revisions. -/
structure Engine.Intact (e : Engine) (read : List Parsed) : Prop where
  config : e.config.Standalone
  offline : e.gateway.client = none
  measured : e.scheduler.Measured
  rules : e.classifier.Standard
  keyed : e.tracker.Keyed
  parser : e.parser.Sound read
  detector : Digest.CollisionFree (hashedFor (read.map (·.1))) → e.detector.Recalls e.parser read
  trees : ∀ file tree, e.trees.get? file = some tree → ∃ x ∈ read, x.2 = tree

/-- The digests of a revision depend on its language and its text. -/
theorem hashedFor_congr {r r' : Revision} (language : r'.language = r.language) (text : r'.text = r.text) :
    hashedFor [r'] = hashedFor [r] := by
  unfold hashedFor Revision.branches
  rw [List.flatMap_singleton, List.flatMap_singleton, language, text]

/-- Revisions that were read have no more digests than all revisions. -/
theorem hashedFor_mono {few many : List Revision} (subset : ∀ r ∈ few, r ∈ many)
    (apart : Digest.CollisionFree (hashedFor many)) : Digest.CollisionFree (hashedFor few) := by
  refine apart.mono fun m member => ?_
  obtain ⟨r, known, branch⟩ := List.mem_flatMap.1 member
  exact List.mem_flatMap.2 ⟨r, subset r known, branch⟩

namespace Engine

/-- An engine that was just started relies on nothing. It may be given a parser and a detector with other
limits. -/
theorem intact_of_start {c : Config} (standalone : c.Standalone) {disk after : Disk} {e : Engine}
    {logs : List Log.Record} (started : Engine.start c disk = .ok (e, after, logs))
    (maxNodes memoLimit : Int) :
    Intact { e with parser := { maxNodes }, detector := { Detector.standard with memoLimit } } [] := by
  obtain ⟨_, gateway, way, rfl⟩ := eq_of_start started
  exact
    { config := standalone
      offline := client_eq_none standalone.offline way
      measured := .new (standalone.typed.bounded standalone.within)
      rules := ⟨rfl, rfl⟩
      keyed := Tracker.keyed_empty
      parser := Parser.Sound.start rfl
      detector := fun _ => Workbench.recalls_nothing _ _ _
      trees := nofun }

theorem scheduler_checkAndRecord (e : Engine) (file identity : String) (action : NoticeAction)
    (now : Float) : (e.checkAndRecord file identity action now).1.scheduler = e.scheduler := by
  unfold Engine.checkAndRecord
  dsimp only
  split <;> rfl

theorem config_checkAndRecord (e : Engine) (file identity : String) (action : NoticeAction) (now : Float) :
    (e.checkAndRecord file identity action now).1.config = e.config := by
  unfold Engine.checkAndRecord
  dsimp only
  split <;> rfl

theorem tracker_checkAndRecord (e : Engine) (file identity : String) (action : NoticeAction) (now : Float) :
    (e.checkAndRecord file identity action now).1.tracker = e.tracker := by
  unfold Engine.checkAndRecord
  dsimp only
  split <;> rfl

namespace Intact

variable {e : Engine} {read : List Parsed}

/-- To apply a configuration without a remote service sets limits, and it never fails. -/
theorem applyConfig_eq (intact : e.Intact read) :
    ∃ logs, e.applyConfig =
      ({ e with
          scheduler := e.scheduler.configure e.config.scheduling
          journal := e.applyCache.1.journal
          lifetime := e.config.lifetime },
        logs, none) := by
  have limited (scheduler : Scheduler Number) : Engine.applyCache { e with scheduler } =
      ({ e with scheduler, journal := e.applyCache.1.journal, lifetime := e.config.lifetime },
        e.applyCache.2) := by
    unfold Engine.applyCache
    dsimp only
    split <;> rfl
  have nowhere (scheduler : Scheduler Number) (journal : Journal) : Engine.applyRemote
      { e with scheduler, journal, lifetime := e.config.lifetime } =
        .ok ({ e with scheduler, journal, lifetime := e.config.lifetime }, []) := by
    unfold Engine.applyRemote Engine.endpoint
    dsimp only
    rw [intact.offline, intact.config.offline]
    rfl
  refine ⟨e.applyCache.2, ?_⟩
  unfold Engine.applyConfig
  dsimp only
  rw [limited]
  dsimp only
  rw [nowhere]
  dsimp only
  rw [List.append_nil]

theorem applyConfig (intact : e.Intact read) : e.applyConfig.1.Intact read := by
  obtain ⟨logs, applied⟩ := intact.applyConfig_eq
  rw [applied]
  exact
    { intact with
      measured := intact.measured.configure (intact.config.typed.bounded intact.config.within) }

theorem record (intact : e.Intact read) (file text : String) (ranges : Option (List HostRange))
    (language : String) :
    Intact { e with tracker := (e.tracker.record file text ranges language).1 } read :=
  { intact with keyed := intact.keyed.record file text ranges language }

/-- A text that comes in while a file is parsed is recorded. -/
theorem recordIn (intact : e.Intact read) (m : Meanwhile) (file : String) :
    Intact { e with tracker := m.recordIn e.tracker file } read := by
  unfold Meanwhile.recordIn
  split
  · exact intact.record file _ none ""
  · exact intact

theorem schedule (intact : e.Intact read) {scheduler : Scheduler Number} (measured : scheduler.Measured) :
    Intact { e with scheduler } read :=
  { intact with measured }

/-- A revision is read, with the tree that is kept of its file. -/
theorem parse (intact : e.Intact read) {r : Revision} {file : String} {out : Parser.Outcome}
    (parsed : e.parser.parse r (e.trees.get? file) = out) :
    Intact { e with parser := out.parser } (read ++ [(r, out.tree)]) := by
  have known (t : Tree) (found : e.trees.get? file = some t) : t.arena < e.parser.arenas.size := by
    obtain ⟨x, member, rfl⟩ := intact.trees file t found
    exact intact.parser.arena_lt x member
  have sound := intact.parser.parse r (intact.trees file) none
  have reads := Parser.reads_parse intact.parser.grammars r known none
  rw [parsed] at sound reads
  refine { intact with parser := sound, detector := ?_, trees := ?_ }
  · intro apart
    have before : Digest.CollisionFree (hashedFor (read.map (·.1))) := by
      refine hashedFor_mono (fun r member => ?_) apart
      rw [List.map_append]
      exact List.mem_append_left _ member
    let w : Workbench := { parser := e.parser, detector := e.detector, read }
    have sound : w.Sound := ⟨intact.parser, intact.detector before⟩
    exact Workbench.recalls_parse sound before reads
  · intro other tree found
    obtain ⟨x, member, same⟩ := intact.trees other tree found
    exact ⟨x, List.mem_append_left _ member, same⟩

/-- The queries search a tree that was made, with whatever answers of a checkpoint. -/
theorem detect (intact : e.Intact read) {c : Config} (standalone : c.Standalone) {tree : Tree}
    (made : ∃ x ∈ read, x.2 = tree) (checkpoint : Detector.Checkpoint) :
    Intact
      { e with
        detector :=
          (e.detector.detect c.settings tree (e.parser.arena tree.arena) checkpoint).1 } read := by
  refine { intact with detector := fun apart => ?_ }
  obtain ⟨x, member, rfl⟩ := made
  obtain ⟨length, parameters, lines, whole⟩ := standalone.thresholds
  rw [whole]
  exact ((intact.detector apart).detect_eq intact.parser apart member length parameters lines
    checkpoint).2

/-- A tree that was made is kept, and a revision counts as analyzed. -/
theorem publish (intact : e.Intact read) {tree : Tree} (made : ∃ x ∈ read, x.2 = tree) (file : String)
    (r : Revision) :
    Intact
      { e with
        trees := e.trees.set file tree
        tracker := (e.tracker.markAnalyzed r).1 } read := by
  refine { intact with keyed := intact.keyed.markAnalyzed r, trees := ?_ }
  intro other kept found
  by_cases same : other = file
  · rw [same, Table.get?_set_self] at found
    cases found
    exact made
  · rw [Table.get?_set_of_ne _ _ same] at found
    exact intact.trees other kept found

theorem forget (intact : e.Intact read) (file : String) : (e.forget file).Intact read := by
  refine { intact with keyed := intact.keyed.forget file, trees := ?_ }
  intro other kept found
  by_cases same : other = file
  · rw [same] at found
    change (e.trees.erase file).get? file = some kept at found
    rw [Table.get?_erase_self] at found
    cases found
  · change (e.trees.erase file).get? other = some kept at found
    rw [Table.get?_erase_of_ne _ same] at found
    exact intact.trees other kept found

theorem checkAndRecord (intact : e.Intact read) (file identity : String) (action : NoticeAction)
    (now : Float) : (e.checkAndRecord file identity action now).1.Intact read := by
  unfold Engine.checkAndRecord
  dsimp only
  split
  · exact intact
  · exact { intact with }

theorem configure (intact : e.Intact read) {c : Config} (standalone : c.Standalone) :
    Intact { e with config := c } read :=
  { intact with config := standalone }

end Intact

end Engine

end LiveLint
