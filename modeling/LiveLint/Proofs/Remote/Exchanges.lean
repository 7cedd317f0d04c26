import LiveLint.Proofs.Remote.Adjustments
import LiveLint.Proofs.Remote.Counts
import LiveLint.Remote.Refinement

/-!
# The calls of a refinement

A refinement makes at most two calls. Each is made only if the machine allows it, and the machine is told of
each how it went, whatever others do with it while the call is out. What becomes of the issues follows from
the answers alone: they are applied one after the other, and a call without an answer changes nothing.
-/

namespace LiveLint

/-- What the machine is told about the result of a call. -/
def ConnectivityEvent.ofResult (result : Except RemoteFault Fields) (now : Number) :
    ConnectivityEvent Number :=
  match result with
  | .ok _ => .succeed now
  | .error _ => .fail now

/-- What happens while a call is out: others use the machine, and time passes. -/
structure Interim where
  others : List (ConnectivityEvent Number)
  now : Number

/-- A call that was made, with what it carried, when it was allowed, what happened while it was out, and what
came back. -/
structure Exchange where
  call : RemoteCall
  payload : Value
  asked : Number
  interim : Interim
  result : Except RemoteFault Fields

namespace Exchange

def answer? (e : Exchange) : Option Fields := e.result.toOption

/-- What a call is for the machine: it is asked once, and told once how the call went. -/
def events (e : Exchange) : List (ConnectivityEvent Number) :=
  .ask e.asked :: (e.interim.others ++ [.ofResult e.result e.interim.now])

def answers (exchanges : List Exchange) : List Fields := exchanges.filterMap answer?

end Exchange

namespace Refinement

/-- The way to the service after the time in which a call was out, if one was. -/
def await (g : Gateway) (interim : Interim) : Refinement → Gateway
  | .settled _ => g
  | _ => { g with machine := g.machine.run interim.others }

/-- The call that is carried out next in a refinement. -/
def exchange? {σ : Type} (g : Gateway) (asked : Number) (interim : Interim) (transport : Transport σ)
    (topic : RefinementTopic) (r : Refinement) (s : σ) : Option Exchange :=
  match r.pending topic, g.client with
  | some (call, payload), some client =>
    some ⟨call, payload, asked, interim, (client.post transport call payload s).1⟩
  | _, _ => none

/-- How many calls there may still be. -/
def callsLeft : Refinement → Nat
  | .consulting _ => 2
  | .insisting _ => 1
  | .settled _ => 0

end Refinement

/-- After the first call the second one is made, unless the issues could not be adjusted. -/
theorem Refinement.resume_consulting (g : Gateway) (now : Number) (issues : List Issue)
    (result : Except RemoteFault Fields) :
    let told := g.conclude now RemoteCall.structural.label result
    let next := resume g now (.consulting issues) result
    (∀ fault, told.2.1.bind (Gateway.apply issues) = .error fault →
        next.1 = told.1 ∧ next.2.1 = .settled (.error fault)) ∧
      ∀ mid, told.2.1.bind (Gateway.apply issues) = .ok mid →
        next.1 = (second told.1 now mid).1 ∧ next.2.1 = (second told.1 now mid).2.1 := by
  intro told next
  refine ⟨fun fault failed => ?_, fun mid applied => ?_⟩
  · simp only [next, resume, told, failed, and_self]
  · simp only [next, resume, told, applied, and_self]

/-- After the second call there is no other. -/
theorem Refinement.callsLeft_resume_insisting (g : Gateway) (now : Number) (issues : List Issue)
    (result : Except RemoteFault Fields) :
    (resume g now (.insisting issues) result).2.1.callsLeft = 0 := rfl

/-- The call that is out is carried out by the client. -/
theorem Refinement.exchange_of_pending {σ : Type} {g : Gateway} {topic : RefinementTopic} {r : Refinement}
    {call : RemoteCall} {payload : Value} {client : RemoteClient} (out : r.pending topic = some (call, payload))
    (way : g.client = some client) (asked : Number) (interim : Interim) (transport : Transport σ) (s : σ) :
    let result := (client.post transport call payload s).1
    let next := exchange g interim.now transport topic r s
    r.exchange? g asked interim transport topic s = some ⟨call, payload, asked, interim, result⟩ ∧
      next.gateway = (resume g interim.now r result).1 ∧ next.result = (resume g interim.now r result).2.1 := by
  intro result next
  refine ⟨?_, ?_, ?_⟩
  · simp only [exchange?, out, way, result]
  · simp only [next, exchange, out, way, result]
  · simp only [next, exchange, out, way, result]

namespace Gateway

/-- A refinement while others use the machine: each of its calls has an interim of its own. -/
def refineAmid {σ : Type} (g : Gateway) (now : Number) (first second : Interim) (transport : Transport σ)
    (topic : RefinementTopic) (issues : List Issue) (s : σ) : Outcome σ (Except Fault (List Issue)) :=
  let (g, r, logs) := Refinement.start g now issues
  let one := Refinement.exchange (r.await g first) first.now transport topic r s
  let last := Refinement.exchange (one.result.await one.gateway second) second.now transport topic
    one.result one.rest
  ⟨last.gateway, last.result.result, logs ++ one.logs ++ last.logs, last.rest⟩

/-- Without others, and in no time, it is what a refinement does by itself. -/
theorem refineAmid_alone {σ : Type} (g : Gateway) (now : Number) (transport : Transport σ)
    (topic : RefinementTopic) (issues : List Issue) (s : σ) :
    g.refineAmid now ⟨[], now⟩ ⟨[], now⟩ transport topic issues s = g.refine now transport topic issues s := by
  have same (g : Gateway) (r : Refinement) : r.await g ⟨[], now⟩ = g := by cases r <;> rfl
  simp only [refineAmid, same]
  rfl

def moment (now : Number) (exchanges : List Exchange) : Number :=
  (exchanges.getLast?.map (·.interim.now)).getD now

def exchanges {σ : Type} (g : Gateway) (now : Number) (first second : Interim) (transport : Transport σ)
    (topic : RefinementTopic) (issues : List Issue) (s : σ) : List Exchange :=
  let (g, r, _) := Refinement.start g now issues
  let g := r.await g first
  let one := Refinement.exchange g first.now transport topic r s
  let before := (r.exchange? g now first transport topic s).toList
  let g := one.result.await one.gateway second
  before ++ (one.result.exchange? g (moment now before) second transport topic one.rest).toList

/-- The way to the service after some calls. -/
def after (g : Gateway) (exchanges : List Exchange) : Gateway :=
  { g with machine := g.machine.run (exchanges.flatMap Exchange.events) }

/-- A call may be made after some others, and carries what it should: all issues, or those that are still
uncertain after the first call. -/
structure Due (g : Gateway) (now : Number) (topic : RefinementTopic) (issues : List Issue)
    (before : List Exchange) (e : Exchange) : Prop where
  asked : e.asked = moment now before
  allowed : (g.after before).machine.allows e.asked = true
  first : e.call = .structural →
    before = [] ∧ e.payload = structurePayload topic.file topic.language topic.revision issues
  second : e.call = .classify → ∃ mid, applyAll issues (Exchange.answers before) = .ok mid ∧
    Refinement.uncertain mid ≠ [] ∧ e.payload = classifyPayload topic.language (Refinement.uncertain mid)

/-- Each of some calls was due after those before it, and none was made twice. -/
structure Made (g : Gateway) (now : Number) (topic : RefinementTopic) (issues : List Issue)
    (exchanges : List Exchange) : Prop where
  calls : (exchanges.map Exchange.call).Sublist [.structural, .classify]
  due : ∀ k e, exchanges[k]? = some e → g.Due now topic issues (exchanges.take k) e

variable {g : Gateway} {now : Number} {topic : RefinementTopic} {issues : List Issue}

theorem ask_eq (g : Gateway) (now : Number) :
    (g.ask now).1 = { g with machine := g.machine.perform (.ask now) } := rfl

theorem ask_of_refused (refused : g.machine.allows now = false) : (g.ask now).1 = g := by
  rw [ask_eq, ConnectivityMachine.perform_ask, if_neg]
  exact fun probe => Bool.false_ne_true (refused.symm.trans probe.1)

/-- The way to the service when a call that comes after some others comes back: it was asked, and then
others used the machine. -/
def during (g : Gateway) (before : List Exchange) (e : Exchange) : Gateway :=
  { g with machine := ((g.after before).ask e.asked).1.machine.run e.interim.others }

theorem after_append (g : Gateway) (before : List Exchange) (e : Exchange) :
    g.after (before ++ [e]) =
      { g with machine := (g.during before e).machine.perform (.ofResult e.result e.interim.now) } := by
  unfold after ConnectivityMachine.run
  rw [List.flatMap_append, List.foldl_append, List.flatMap_singleton, Exchange.events, List.foldl_cons,
    List.foldl_append]
  rfl

theorem probeInterval_during (g : Gateway) (before : List Exchange) (e : Exchange) :
    (g.during before e).machine.probeInterval = g.machine.probeInterval :=
  (((g.machine.samePauses_run _).trans (ConnectivityMachine.samePauses_perform _ (.ask e.asked))).trans
    (ConnectivityMachine.samePauses_run _ _)).probeInterval

/-- The machine is told how a call went, unless that takes a time that is beyond all doubles. -/
theorem conclude_during (g : Gateway) (before : List Exchange) (e : Exchange) (operation : String) :
    let told := (g.during before e).conclude e.interim.now operation e.result
    (told.1 = g.after (before ++ [e]) ∧ told.2.1 = .ok e.answer?) ∨
      (told.2.1 = .error .numberTooLarge ∧ e.answer? = none ∧ g.machine.probeInterval.overflows = true) := by
  obtain ⟨call, payload, asked, interim, result⟩ := e
  rw [after_append]
  cases result with
  | ok fields => exact Or.inl ⟨rfl, rfl⟩
  | error fault =>
    unfold conclude
    dsimp only
    split
    · next large =>
      -- the last chance was missed, and the interval between probes has not changed since the start
      refine Or.inr ⟨rfl, rfl, ?_⟩
      rw [← probeInterval_during]
      exact (Bool.and_eq_true_iff.1 large).2
    · exact Or.inl ⟨rfl, rfl⟩

theorem answers_append (exchanges : List Exchange) (e : Exchange) :
    Exchange.answers (exchanges ++ [e]) = Exchange.answers exchanges ++ e.answer?.toList := by
  rw [Exchange.answers, List.filterMap_append, List.filterMap_cons, List.filterMap_nil]
  cases e.answer? <;> rfl

/-- One more call has its answer applied to what the others left. -/
theorem applyAll_answers_append (issues : List Issue) (exchanges : List Exchange) (e : Exchange) :
    applyAll issues (Exchange.answers (exchanges ++ [e])) =
      (applyAll issues (Exchange.answers exchanges)).bind (apply · e.answer?) := by
  rw [answers_append, applyAll_append]
  refine congrArg (Except.bind _) (funext fun mid => ?_)
  cases e.answer? with
  | none => rfl
  | some answer =>
    change (apply mid (some answer)).bind _ = _
    cases apply mid (some answer) <;> rfl

theorem made_nil : g.Made now topic issues [] :=
  ⟨List.nil_sublist _, fun _ _ found => absurd (List.getElem?_nil.symm.trans found) nofun⟩

theorem Made.snoc {exchanges : List Exchange} {e : Exchange} (made : g.Made now topic issues exchanges)
    (calls : (exchanges.map Exchange.call ++ [e.call]).Sublist [.structural, .classify])
    (due : g.Due now topic issues exchanges e) : g.Made now topic issues (exchanges ++ [e]) := by
  refine ⟨by rwa [List.map_append], fun k e' found => ?_⟩
  rcases Nat.lt_trichotomy k exchanges.length with less | rfl | more
  · rw [List.getElem?_append_left less] at found
    rw [List.take_append_of_le_length (Nat.le_of_lt less)]
    exact made.due k e' found
  · rw [List.getElem?_concat_length] at found
    cases found
    rwa [List.take_left]
  · rw [List.getElem?_eq_none (by rw [List.length_append]; exact more)] at found
    cases found

/-- Where a refinement stands that has made some calls. -/
inductive Progress (g : Gateway) (now : Number) (topic : RefinementTopic) (issues : List Issue) :
    List Exchange → Gateway → Refinement → Prop where
  | consulting (client : g.client.isSome = true) (allowed : g.machine.allows now = true) :
      Progress g now topic issues [] (g.ask now).1 (.consulting issues)
  | insisting {exchanges : List Exchange} {mid : List Issue} (client : g.client.isSome = true)
      (made : g.Made now topic issues exchanges)
      (few : (exchanges.map Exchange.call).Sublist [.structural])
      (applied : applyAll issues (Exchange.answers exchanges) = .ok mid)
      (some : Refinement.uncertain mid ≠ [])
      (allowed : (g.after exchanges).machine.allows (moment now exchanges) = true) :
      Progress g now topic issues exchanges ((g.after exchanges).ask (moment now exchanges)).1 (.insisting mid)
  | settled {exchanges : List Exchange} (made : g.Made now topic issues exchanges) :
      Progress g now topic issues exchanges (g.after exchanges)
        (.settled (applyAll issues (Exchange.answers exchanges)))
  /-- The time of the next probe could not be told. -/
  | failed {exchanges : List Exchange} {g' : Gateway} (made : g.Made now topic issues exchanges)
      (unanswered : ∃ e ∈ exchanges, e.answer? = none)
      (large : g.machine.probeInterval.overflows = true) :
      Progress g now topic issues exchanges g' (.settled (.error .numberTooLarge))

namespace Progress

/-- The second call is made or not. -/
theorem second {exchanges : List Exchange} {mid : List Issue} (client : g.client.isSome = true)
    (made : g.Made now topic issues exchanges)
    (few : (exchanges.map Exchange.call).Sublist [.structural])
    (applied : applyAll issues (Exchange.answers exchanges) = .ok mid) :
    let next := Refinement.second (g.after exchanges) (moment now exchanges) mid
    g.Progress now topic issues exchanges next.1 next.2.1 := by
  intro next
  unfold next Refinement.second
  split
  · exact applied ▸ settled made
  · next some =>
    change g.Progress now topic issues exchanges ((g.after exchanges).ask (moment now exchanges)).1
      (if (g.after exchanges).machine.allows (moment now exchanges) then _ else _)
    split
    · next allowed =>
      exact insisting client made few applied (fun none => some (List.isEmpty_iff.2 none)) allowed
    · next refused =>
      rw [ask_of_refused (Bool.eq_false_iff.2 refused)]
      exact applied ▸ settled made

theorem start (g : Gateway) (now : Number) (topic : RefinementTopic) (issues : List Issue) :
    g.Progress now topic issues [] (Refinement.start g now issues).1 (Refinement.start g now issues).2.1 := by
  unfold Refinement.start
  split
  · exact settled made_nil
  · next somebody =>
    have client : g.client.isSome = true := by
      cases client : g.client with
      | none => exact absurd (by rw [client]; rfl) somebody
      | some _ => rfl
    dsimp only
    split
    · next allowed => exact consulting client allowed
    · next refused =>
      rw [ask_of_refused (Bool.eq_false_iff.2 refused)]
      exact second client made_nil (List.nil_sublist _) rfl

/-- The first call comes back. -/
theorem resume_consulting (client : g.client.isSome = true) {e : Exchange} (call : e.call = .structural)
    (due : g.Due now topic issues [] e) :
    let next := Refinement.resume (g.during [] e) e.interim.now (.consulting issues) e.result
    g.Progress now topic issues [e] next.1 next.2.1 := by
  intro next
  have made : g.Made now topic issues [e] :=
    made_nil.snoc (call ▸ List.sublist_append_left [RemoteCall.structural] _) due
  have few : ([e].map Exchange.call).Sublist [.structural] := call ▸ List.Sublist.refl _
  obtain ⟨stops, goes_on⟩ := Refinement.resume_consulting (g.during [] e) e.interim.now issues e.result
  rcases g.conclude_during [] e RemoteCall.structural.label with ⟨told, answer⟩ | ⟨failed, none, large⟩
  · rw [answer] at stops goes_on
    rw [told] at stops goes_on
    have applied : apply issues e.answer? = applyAll issues (Exchange.answers [e]) :=
      (applyAll_answers_append issues [] e).symm
    cases outcome : apply issues e.answer? with
    | error fault =>
      obtain ⟨gateway, stopped⟩ := stops fault outcome
      rw [applied] at outcome
      rw [gateway, stopped, ← outcome]
      exact settled made
    | ok mid =>
      obtain ⟨gateway, went_on⟩ := goes_on mid outcome
      rw [gateway, went_on]
      exact second client made few (applied.symm.trans outcome)
  · obtain ⟨-, stopped⟩ := stops .numberTooLarge (by rw [failed]; rfl)
    rw [stopped]
    exact Progress.failed made ⟨e, List.mem_singleton_self e, none⟩ large

/-- The second call comes back. -/
theorem resume_insisting {before : List Exchange} {mid : List Issue}
    (made : g.Made now topic issues before)
    (few : (before.map Exchange.call).Sublist [.structural])
    (applied : applyAll issues (Exchange.answers before) = .ok mid)
    {e : Exchange} (call : e.call = .classify) (due : g.Due now topic issues before e) :
    let next := Refinement.resume (g.during before e) e.interim.now (.insisting mid) e.result
    g.Progress now topic issues (before ++ [e]) next.1 next.2.1 := by
  intro next
  have made' := made.snoc (call ▸ few.append_right [RemoteCall.classify]) due
  have applied' := applyAll_answers_append issues before e
  rw [applied] at applied'
  rcases g.conclude_during before e RemoteCall.classify.label with ⟨told, answer⟩ | ⟨failed, none, large⟩
  · have gateway : next.1 = g.after (before ++ [e]) := told
    have settled_by : next.2.1 = .settled (applyAll issues (Exchange.answers (before ++ [e]))) := by
      rw [applied']
      exact congrArg (fun a => Refinement.settled (Except.bind a (apply mid))) answer
    rw [gateway, settled_by]
    exact settled made'
  · have settled_by : next.2.1 = .settled (.error .numberTooLarge) :=
      congrArg (fun a => Refinement.settled (Except.bind a (apply mid))) failed
    rw [settled_by]
    exact Progress.failed made' ⟨e, List.mem_append_right before (List.mem_singleton_self e), none⟩ large

/-- After a call there is at most one more. -/
theorem callsLeft_le {exchanges : List Exchange} {g' : Gateway} {r : Refinement}
    (progress : g.Progress now topic issues exchanges g' r) (some : exchanges ≠ []) : r.callsLeft ≤ 1 := by
  cases progress with
  | consulting => exact absurd rfl some
  | insisting => exact Nat.le_refl 1
  | settled => exact Nat.zero_le 1
  | failed => exact Nat.zero_le 1

/-- The call that is out comes back, after others used the machine. -/
theorem resume {before : List Exchange} {g' : Gateway} {r : Refinement} {call : RemoteCall}
    {payload : Value} (progress : g.Progress now topic issues before g' r)
    (out : r.pending topic = some (call, payload)) (interim : Interim)
    (result : Except RemoteFault Fields) :
    let next := Refinement.resume (r.await g' interim) interim.now r result
    g.Progress now topic issues (before ++ [⟨call, payload, moment now before, interim, result⟩])
      next.1 next.2.1 := by
  intro next
  let e : Exchange := ⟨call, payload, moment now before, interim, result⟩
  cases progress with
  | consulting client allowed =>
    cases out
    have due : g.Due now topic issues [] e := ⟨rfl, allowed, fun _ => ⟨rfl, rfl⟩, nofun⟩
    exact resume_consulting client rfl due
  | insisting client made few applied some allowed =>
    cases out
    have due : g.Due now topic issues before e :=
      ⟨rfl, allowed, nofun, fun _ => ⟨_, applied, some, rfl⟩⟩
    exact resume_insisting made few applied rfl due
  | settled => cases out
  | failed => cases out

/-- A call is out only if there is a client. -/
theorem client {exchanges : List Exchange} {g' : Gateway} {r : Refinement} {call : RemoteCall}
    {payload : Value} (progress : g.Progress now topic issues exchanges g' r)
    (out : r.pending topic = some (call, payload)) (interim : Interim) :
    ∃ client, (r.await g' interim).client = some client := by
  cases progress with
  | consulting client => exact Option.isSome_iff_exists.1 client
  | insisting client => exact Option.isSome_iff_exists.1 client
  | settled => cases out
  | failed => cases out

/-- A refinement goes on with the call that is out, if there is one, and then fewer are left. -/
theorem exchange {σ : Type} {before : List Exchange} {g' : Gateway} {r : Refinement}
    (progress : g.Progress now topic issues before g' r) (interim : Interim) (transport : Transport σ)
    (s : σ) :
    let g' := r.await g' interim
    let next := Refinement.exchange g' interim.now transport topic r s
    let more := (r.exchange? g' (moment now before) interim transport topic s).toList
    g.Progress now topic issues (before ++ more) next.gateway next.result ∧
      next.result.callsLeft ≤ r.callsLeft - 1 := by
  intro g'' next more
  cases out : r.pending topic with
  | none =>
    cases r with
    | settled result => exact ⟨(List.append_nil before).symm ▸ progress, Nat.le_refl 0⟩
    | _ => cases out
  | some sent =>
    obtain ⟨c, way⟩ := progress.client out interim
    obtain ⟨made, gateway, result⟩ :=
      Refinement.exchange_of_pending out way (moment now before) interim transport s
    have came_back := progress.resume out interim (c.post transport sent.1 sent.2 s).1
    have one : more = [⟨sent.1, sent.2, moment now before, interim, _⟩] := congrArg Option.toList made
    replace result : next.result = _ := result
    rw [one]
    refine ⟨?_, ?_⟩
    · rw [gateway, result]
      exact came_back
    · rw [result]
      cases r with
      | consulting => exact came_back.callsLeft_le (List.append_ne_nil_of_right_ne_nil _ (List.cons_ne_nil _ _))
      | insisting => exact Nat.le_of_eq (Refinement.callsLeft_resume_insisting ..)
      | settled => cases out

/-- A refinement is settled by what its answers make of the issues, unless the time of the next probe could
not be told. -/
theorem of_settled {exchanges : List Exchange} {g' : Gateway} {result : Except Fault (List Issue)}
    (progress : g.Progress now topic issues exchanges g' (.settled result)) :
    g.Made now topic issues exchanges ∧
      ((g' = g.after exchanges ∧ result = applyAll issues (Exchange.answers exchanges)) ∨
        (result = .error .numberTooLarge ∧ (∃ e ∈ exchanges, e.answer? = none) ∧
          g.machine.probeInterval.overflows = true)) := by
  cases progress with
  | settled made => exact ⟨made, Or.inl ⟨rfl, rfl⟩⟩
  | failed made unanswered large => exact ⟨made, Or.inr ⟨rfl, unanswered, large⟩⟩

theorem callsLeft_le_two (r : Refinement) : r.callsLeft ≤ 2 := by
  cases r with
  | consulting => exact Nat.le_refl 2
  | insisting => exact Nat.le_succ 1
  | settled => exact Nat.zero_le 2

end Progress

/-- A refinement makes its calls and is settled then. -/
theorem progress_refineAmid {σ : Type} (g : Gateway) (now : Number) (first second : Interim)
    (transport : Transport σ) (topic : RefinementTopic) (issues : List Issue) (s : σ) :
    let out := g.refineAmid now first second transport topic issues s
    g.Progress now topic issues (g.exchanges now first second transport topic issues s) out.gateway
      (.settled out.result) := by
  intro out
  let begun := Refinement.start g now issues
  let one := Refinement.exchange (begun.2.1.await begun.1 first) first.now transport topic begun.2.1 s
  let last := Refinement.exchange (one.result.await one.gateway second) second.now transport topic
    one.result one.rest
  obtain ⟨once, few⟩ := (Progress.start g now topic issues).exchange first transport s
  obtain ⟨twice, none_left⟩ := once.exchange second transport one.rest
  replace twice : g.Progress now topic issues (g.exchanges now first second transport topic issues s)
      out.gateway last.result := twice
  replace none_left : last.result.callsLeft ≤ one.result.callsLeft - 1 := none_left
  replace few : one.result.callsLeft ≤ begun.2.1.callsLeft - 1 := few
  -- each step uses up a call if one is left, and there are two at most
  have most := Progress.callsLeft_le_two begun.2.1
  have settled : last.result = .settled out.result := by
    change last.result = .settled last.result.result
    cases stage : last.result with
    | settled result => rfl
    | _ =>
      rw [stage] at none_left
      change _ + 1 ≤ _ at none_left
      omega
  exact settled ▸ twice

end Gateway

end LiveLint
