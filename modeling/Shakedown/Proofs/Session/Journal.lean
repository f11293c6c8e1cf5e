import Shakedown.Session.State

/-!
# Reading a journal

Every event of a session has a topic, and each thing that is read off a journal (the records and phases of
its steps, the servers that it starts and terminates, the ends of its clients) is read off the events about
one topic. Events about other topics can stand anywhere between without changing it (`filterMap_of_about`).
`Settled` is what a journal says of clients that come one after the other.
-/

namespace Shakedown.Session

/-- What an event is about. -/
inductive Topic where
  | console
  | request
  | step
  | build
  | client
  | launch
  | exit
  | cleanUp
deriving DecidableEq

/-- The topic of an event. -/
@[simp] def Event.topic : Event → Topic
  | .watching _ | .printed _ => .console
  | .interrupted _ => .request
  | .entered _ | .recorded _ => .step
  | .buildOver _ => .build
  | .clientStarted .. | .clientOver _ => .client
  | .spawned _ => .launch
  | .exitObserved _ | .sightLost _ => .exit
  | .terminating _ | .checked .. | .signalled .. | .leaderKilled _ | .guardDropped .. => .cleanUp

/-- The events are about some of the given topics. -/
def About (topics : List Topic) (es : List Event) : Prop := ∀ e ∈ es, e.topic ∈ topics

variable {es es' : List Event} {topics more : List Topic}

theorem about_nil : About topics [] :=
  fun _ he => nomatch he

theorem about_singleton {e : Event} (he : e.topic ∈ topics) : About topics [e] := by
  intro x hx
  rw [List.mem_singleton.mp hx]
  exact he

/-- Events about the same topics, one part after the other. -/
theorem About.append (h : About topics es) (h' : About topics es') : About topics (es ++ es') := by
  intro e he
  rcases List.mem_append.mp he with he | he
  · exact h e he
  · exact h' e he

/-- Events about some topics are about more of them. -/
theorem About.mono (h : About topics es) (sub : topics ⊆ more) : About more es :=
  fun e he => sub (h e he)

/-- An event of another topic is not among them. -/
theorem About.not_mem {e : Event} (h : About topics es) (he : e.topic ∉ topics) : e ∉ es :=
  fun hm => he (h e hm)

/-! ## What is read off a journal -/

/-- The record in an event. -/
def Event.record? : Event → Option StepRecord
  | .recorded step => some step
  | _ => none

/-- The phase that an event enters. -/
def Event.phase? : Event → Option Phase
  | .entered phase => some phase
  | _ => none

/-- The server that an event tells was started. -/
def Event.spawned? : Event → Option Nat
  | .spawned server => some server
  | _ => none

/-- The server whose termination an event tells the begin of. -/
def Event.terminating? : Event → Option Nat
  | .terminating server => some server
  | _ => none

/-- The request that an event tells has ended the steps. -/
def Event.interrupted? : Event → Option Interrupt
  | .interrupted i => some i
  | _ => none

/-- What was seen of a client that an event tells is over. -/
def Event.clientOver? : Event → Option (Option (List Invocation.Event))
  | .clientOver seen => some seen
  | _ => none

/-- The records in a list of events. -/
def records (es : List Event) : List StepRecord := es.filterMap Event.record?

/-- The phases in a list of events. -/
def phases (es : List Event) : List Phase := es.filterMap Event.phase?

/-- The servers that were started. -/
def launches (es : List Event) : List Nat := es.filterMap Event.spawned?

/-- The servers whose termination has begun. -/
def terminations (es : List Event) : List Nat := es.filterMap Event.terminating?

/-- The requests that have ended the steps. -/
def interruptions (es : List Event) : List Interrupt := es.filterMap Event.interrupted?

/-- What was seen of the clients that are over. -/
def overs (es : List Event) : List (Option (List Invocation.Event)) := es.filterMap Event.clientOver?

@[simp] theorem records_append : records (es ++ es') = records es ++ records es' :=
  List.filterMap_append ..

@[simp] theorem phases_append : phases (es ++ es') = phases es ++ phases es' :=
  List.filterMap_append ..

@[simp] theorem launches_append : launches (es ++ es') = launches es ++ launches es' :=
  List.filterMap_append ..

@[simp] theorem terminations_append : terminations (es ++ es') = terminations es ++ terminations es' :=
  List.filterMap_append ..

@[simp] theorem interruptions_append : interruptions (es ++ es') = interruptions es ++ interruptions es' :=
  List.filterMap_append ..

@[simp] theorem overs_append : overs (es ++ es') = overs es ++ overs es' :=
  List.filterMap_append ..

theorem records_cons (e : Event) (es : List Event) : records (e :: es) = e.record?.toList ++ records es := by
  cases he : e.record? <;> simp [records, he]

theorem phases_cons (e : Event) (es : List Event) : phases (e :: es) = e.phase?.toList ++ phases es := by
  cases he : e.phase? <;> simp [phases, he]

/-- A request stands in the list of the requests if it stands in the journal. -/
theorem mem_interruptions {i : Interrupt} : i ∈ interruptions es ↔ .interrupted i ∈ es := by
  rw [interruptions, List.mem_filterMap]
  constructor
  · rintro ⟨e, he, hi⟩
    cases e <;> cases hi
    exact he
  · intro he
    exact ⟨_, he, rfl⟩

/-- A record stands in the list of the records if it stands in the journal. -/
theorem mem_records {r : StepRecord} : r ∈ records es ↔ .recorded r ∈ es := by
  rw [records, List.mem_filterMap]
  constructor
  · rintro ⟨e, he, hr⟩
    cases e <;> cases hr
    exact he
  · intro he
    exact ⟨_, he, rfl⟩

/-! ## Events about other topics -/

/-- What is read off events about one topic is not in events about others. -/
theorem filterMap_of_about {β : Type} {f : Event → Option β} {topic : Topic}
    (hf : ∀ e : Event, e.topic ≠ topic → f e = none) (h : About topics es) (ht : topic ∉ topics) :
    es.filterMap f = [] := by
  refine List.filterMap_eq_nil_iff.mpr fun e he => hf e ?_
  rintro rfl
  exact ht (h e he)

/-- Only a step leaves a record. -/
theorem Event.record?_none {e : Event} (h : e.topic ≠ .step) : e.record? = none := by
  cases e <;> first | rfl | exact absurd rfl h

theorem Event.phase?_none {e : Event} (h : e.topic ≠ .step) : e.phase? = none := by
  cases e <;> first | rfl | exact absurd rfl h

theorem Event.spawned?_none {e : Event} (h : e.topic ≠ .launch) : e.spawned? = none := by
  cases e <;> first | rfl | exact absurd rfl h

theorem Event.terminating?_none {e : Event} (h : e.topic ≠ .cleanUp) : e.terminating? = none := by
  cases e <;> first | rfl | exact absurd rfl h

theorem Event.interrupted?_none {e : Event} (h : e.topic ≠ .request) : e.interrupted? = none := by
  cases e <;> first | rfl | exact absurd rfl h

theorem Event.clientOver?_none {e : Event} (h : e.topic ≠ .client) : e.clientOver? = none := by
  cases e <;> first | rfl | exact absurd rfl h

/-- Events that are not about steps leave no record. -/
theorem About.records_nil (h : About topics es) (ht : .step ∉ topics) : records es = [] :=
  filterMap_of_about (fun _ => Event.record?_none) h ht

theorem About.phases_nil (h : About topics es) (ht : .step ∉ topics) : phases es = [] :=
  filterMap_of_about (fun _ => Event.phase?_none) h ht

/-- Events that are not about the launch start no server. -/
theorem About.launches_nil (h : About topics es) (ht : .launch ∉ topics) : launches es = [] :=
  filterMap_of_about (fun _ => Event.spawned?_none) h ht

/-- Events that are not about cleaning up terminate no server. -/
theorem About.terminations_nil (h : About topics es) (ht : .cleanUp ∉ topics) : terminations es = [] :=
  filterMap_of_about (fun _ => Event.terminating?_none) h ht

/-- Events that are not about requests hold no request. -/
theorem About.interruptions_nil (h : About topics es) (ht : .request ∉ topics) : interruptions es = [] :=
  filterMap_of_about (fun _ => Event.interrupted?_none) h ht

/-- Events that are not about clients end no client. -/
theorem About.overs_nil (h : About topics es) (ht : .client ∉ topics) : overs es = [] :=
  filterMap_of_about (fun _ => Event.clientOver?_none) h ht

/-! ## Clients one after the other -/

/-- Every client that was started is over, and was before the next one started. -/
def Settled (es : List Event) : Prop :=
  ∀ a b request timeout, es = a ++ .clientStarted request timeout :: b →
    ∃ between seen rest, b = between ++ .clientOver seen :: rest ∧ ∀ e ∈ between, e.topic ≠ .client

/-- No client is left open by events that are not about clients. -/
theorem About.settled (h : About topics es) (ht : .client ∉ topics) : Settled es := by
  rintro a b request timeout rfl
  exact absurd (h _ (List.mem_append_right _ (List.mem_cons_self ..))) ht

/-- A client that is started and over is no longer open. -/
theorem settled_pair (request : ClientRequest) (timeout : Nanos) (seen : Option (List Invocation.Event)) :
    Settled [.clientStarted request timeout, .clientOver seen] := by
  intro a b request' timeout' h
  -- The start is the first of the two events.
  match a, h with
  | [], h =>
    cases h
    exact ⟨[], seen, [], rfl, by simp⟩
  | [_], h => cases h
  | _ :: _ :: a, h => simp at h

/-- A position in two lists that are put together is one in the first or one in the second. -/
theorem append_split {α : Type} {a b pre post : List α} {x : α} (h : a ++ b = pre ++ x :: post) :
    (∃ rest, a = pre ++ x :: rest ∧ post = rest ++ b) ∨ ∃ rest, pre = a ++ rest ∧ b = rest ++ x :: post := by
  rcases List.append_eq_append_iff.mp h with ⟨rest, hp, hb⟩ | ⟨rest, ha, hx⟩
  · exact Or.inr ⟨rest, hp, hb⟩
  · cases rest with
    | nil => exact Or.inr ⟨[], by simpa using ha.symm, hx.symm⟩
    | cons y rest =>
      rw [List.cons_append, List.cons.injEq] at hx
      obtain ⟨rfl, hx⟩ := hx
      exact Or.inl ⟨rest, ha, hx⟩

/-- Parts that leave no client open leave none open together. -/
theorem Settled.append (h : Settled es) (h' : Settled es') : Settled (es ++ es') := by
  intro a b request timeout hs
  rcases append_split hs with ⟨rest, ha, rfl⟩ | ⟨rest, -, hb⟩
  · obtain ⟨between, seen, rest', rfl, hno⟩ := h a rest request timeout ha
    exact ⟨between, seen, rest' ++ es', by simp, hno⟩
  · exact h' rest b request timeout hb

end Shakedown.Session
