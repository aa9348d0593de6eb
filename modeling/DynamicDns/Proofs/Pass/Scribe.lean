import DynamicDns.Proofs.Condition.Growth
import DynamicDns.Proofs.Pass.Duty
import DynamicDns.Proofs.Pass.Settling

/-!
# What passes write in a ledger

A pass writes the conditions of its resource at several places, each with assignments of its own. A
scribe says what all these writes have in common: what one write of a pass over some generation makes of
a ledger, whatever the ledger was. The rules look back at each call, at the ledger as it was before and
as it was left (`Scribe.Kept`); so that a pass keeps to them says of each of its calls that it left the
ledger alone or made such a write. `provider_keeps_books` and `notifier_keeps_books` say that passes do,
whatever they are answered.
-/

namespace DynamicDns

open Condition (types Complete Distinct Amended Settling typeSecret typeConfigMap typeClient)
open Pass (Mutation Next Outcome Follows holds fails statusPatch)

variable {δ κ σ τ α : Type}

/-! ### Views of a cluster -/

namespace Cluster

variable [Codec σ] [Status τ] [Shelved σ τ]

variable (τ) in
def standing (key : ObjectKey) (cluster : Cluster) : Option (Option τ) :=
  (cluster.stored? key : Option (Resource σ τ)).map (·.status)

variable (τ) in
def ledger (key : ObjectKey) (cluster : Cluster) : Option (List Condition) :=
  (cluster.stored? key : Option (Resource σ τ)).map (·.conditions)

variable {key : ObjectKey} {cluster cluster' : Cluster} {found r : Resource σ τ}

theorem ledger_of_stored (h : cluster.stored? key = some r) :
    cluster.ledger τ key = some r.conditions := by
  rw [ledger, h, Option.map_some]

theorem ledger_eq_of_standing (h : cluster'.standing τ key = cluster.standing τ key) :
    cluster'.ledger τ key = cluster.ledger τ key := by
  have hledger (cluster : Cluster) : cluster.ledger τ key =
      (cluster.standing τ key).map fun status => Status.conditions (status.getD Status.initial) := by
    rw [ledger, standing, Option.map_map]
    rfl
  rw [hledger, hledger, h]

/-- The ledger that is stored is the one that is remembered. -/
theorem Attached.ledger_eq (attached : Attached key found r cluster) :
    cluster.ledger τ key = some r.conditions := by
  obtain ⟨stored, hstored, hstatus⟩ := attached.agrees
  rw [ledger_of_stored hstored, Resource.conditions, hstatus, Resource.conditions]

theorem Answers.standing_eq {scope : Option String} {call : Call δ κ} {reply : call.Reply}
    (h : cluster.Answers scope call reply cluster') (spares : call.Spares τ) :
    cluster'.standing τ key = cluster.standing τ key := by
  obtain ⟨refusal, outside, hanswer⟩ := h
  have hkept := spares.keeps scope refusal outside cluster key
  rw [hanswer] at hkept
  rw [standing, standing, hkept]

end Cluster

/-! ### Scribes -/

def Pass.writes (calls : List (Answered δ κ)) : List (Except Failure Unit) :=
  calls.filterMap fun
    | ⟨.patchStatus _ _ _, reply⟩ => some reply
    | _ => none

def Pass.Begun (calls : List (Answered δ κ)) : Prop :=
  ∀ failure, (Pass.writes calls).head? ≠ some (.error failure)

/-- What the passes over a resource write: in which lane they run and how one reads the resource, what
one write of a pass over a generation can make of a ledger, and what a ledger has as soon as anything
was written. -/
structure Scribe (δ κ σ τ : Type) [Codec σ] [Status τ] [Shelved σ τ] (key : ObjectKey) where
  lane : Lane
  reading : Resource σ τ → Answered δ κ
  Edits : Int64 → List Condition → List Condition → Prop
  Leaves : List Condition → Prop
  injective : Function.Injective reading
  truthful : ∀ {scope : Option String} {cluster cluster' : Cluster} {call : Call δ κ}
    {reply : call.Reply} {found : Resource σ τ}, cluster.Answers scope call reply cluster' →
      ⟨call, reply⟩ = reading found → cluster.stored? key = some found
  amends : ∀ {generation : Int64} {before after : List Condition},
    Edits generation before after → Amended generation before after
  distinct : ∀ {generation : Int64} {before after : List Condition},
    Edits generation before after → Distinct before → Distinct after
  leaves : ∀ {generation : Int64} {before after : List Condition},
    Edits generation before after → Leaves after

/-- A trail, and the cluster as it was before the last call. -/
structure Turn (δ κ : Type) extends Trail δ κ where
  before : Cluster

variable [Codec σ] [Status τ] [Shelved σ τ] {scope : Option String} {key : ObjectKey}

namespace Scribe

/-- The last call left the ledger alone, or it was a write of the pass over what it has read. -/
def Kept (scribe : Scribe δ κ σ τ key) (turn : Turn δ κ) : Prop :=
  turn.cluster.ledger τ key = turn.before.ledger τ key ∨
    ∃ found before after, turn.calls.head? = some (scribe.reading found) ∧
      turn.before.ledger τ key = some before ∧ turn.cluster.ledger τ key = some after ∧
      scribe.Edits found.generation before after

/-- How a pass can end: its last call was as it should be, and it leaves what it should, if it read the
resource and its first write was not refused. -/
structure Ends (scribe : Scribe δ κ σ τ key) (turn : Turn δ κ) : Prop where
  kept : scribe.Kept turn
  leaves : ∀ found, turn.calls.head? = some (scribe.reading found) → Pass.Begun turn.calls →
    ∃ conditions, turn.cluster.ledger τ key = some conditions ∧ scribe.Leaves conditions

/-- All calls are answered, and the rules look back at each of them. Between the calls others change the
cluster but for the status of the resource. -/
def rules (scribe : Scribe δ κ σ τ key) (scope : Option String) :
    Program.Rules (@Call.Reply δ κ) (Turn δ κ) where
  allows turn _ := scribe.Kept turn
  answers turn call reply turn' := turn'.before = turn.cluster ∧
    turn.toTrail.Proceeds (·.standing τ key) scope call reply turn'.toTrail
  fails := scribe.Ends

/-- A pass that has read its resource goes on: it remembers the status that is stored, and something that
was written is there already, or nothing was written so far. -/
structure Mindful (scribe : Scribe δ κ σ τ key) (found r : Resource σ τ) (turn : Turn δ κ) :
    Prop where
  attached : Cluster.Attached key found r turn.cluster
  began : turn.calls.head? = some (scribe.reading found)
  kept : scribe.Kept turn
  leaves : scribe.Leaves r.conditions ∨ Pass.writes turn.calls = []

variable {scribe : Scribe δ κ σ τ key} {found r r' : Resource σ τ} {turn turn' : Turn δ κ}

theorem head?_append {calls : List (Answered δ κ)} {reading : Answered δ κ}
    (h : calls.head? = some reading) (answered : Answered δ κ) :
    (calls ++ [answered]).head? = some reading := by
  rw [List.head?_append, h, Option.some_or]

theorem writes_append_of_not_writes {call : Call δ κ} (h : ¬call.WritesStatus)
    (calls : List (Answered δ κ)) (reply : call.Reply) :
    Pass.writes (calls ++ [⟨call, reply⟩]) = Pass.writes calls := by
  rw [Pass.writes, List.filterMap_append, ← Pass.writes]
  cases call with
  | patchStatus => exact absurd trivial h
  | _ => exact List.append_nil _

namespace Mindful

theorem spares (mindful : scribe.Mindful found r turn) {call : Call δ κ} {reply : call.Reply}
    (spares : call.Spares τ) (answer : (scribe.rules scope).answers turn call reply turn') :
    scribe.Mindful found r turn' := by
  obtain ⟨hbefore, cluster, answers, hview, hcalls⟩ := answer
  have same : turn'.cluster.standing τ key = turn.cluster.standing τ key :=
    hview.trans (answers.standing_eq spares)
  refine ⟨mindful.attached.undisturbed same, ?_, .inl ?_, mindful.leaves.imp_right ?_⟩
  · rw [hcalls]
    exact head?_append mindful.began _
  · rw [hbefore]
    exact Cluster.ledger_eq_of_standing same
  · intro unwritten
    rw [hcalls, writes_append_of_not_writes spares.writes, unwritten]

/-- A pass can stop where something was written, or the last write was the first and was refused. -/
theorem ends (mindful : scribe.Mindful found r turn) (h : scribe.Leaves r.conditions) :
    scribe.Ends turn :=
  ⟨mindful.kept, fun _ _ _ => ⟨r.conditions, mindful.attached.ledger_eq, h⟩⟩

end Mindful

/-! ### Calls that write nothing -/

theorem begins {cluster : Cluster} {call : Call δ κ} {reply : call.Reply} (spares : call.Spares τ)
    (reading : ⟨call, reply⟩ = scribe.reading found)
    (answer : (scribe.rules scope).answers ⟨⟨cluster, []⟩, cluster⟩ call reply turn) :
    scribe.Mindful found found turn := by
  obtain ⟨hbefore, cluster', answers, hview, hcalls⟩ := answer
  have stored := scribe.truthful answers reading
  have same : turn.cluster.standing τ key = cluster.standing τ key :=
    hview.trans (answers.standing_eq spares)
  refine ⟨(Cluster.Attached.of_stored stored).undisturbed same, ?_, .inl ?_, .inr ?_⟩
  · rw [hcalls, reading]
    rfl
  · rw [hbefore]
    exact Cluster.ledger_eq_of_standing same
  · rw [hcalls]
    exact writes_append_of_not_writes spares.writes [] reply

/-- A pass that has read nothing has nothing to write. -/
theorem ends_of_unread {cluster : Cluster} {call : Call δ κ} {reply : call.Reply}
    (spares : call.Spares τ) (unread : ∀ found, ⟨call, reply⟩ ≠ scribe.reading found)
    (answer : (scribe.rules scope).answers ⟨⟨cluster, []⟩, cluster⟩ call reply turn) :
    scribe.Ends turn := by
  obtain ⟨hbefore, cluster', answers, hview, hcalls⟩ := answer
  refine ⟨.inl ?_, fun found hhead => ?_⟩
  · rw [hbefore]
    exact Cluster.ledger_eq_of_standing (hview.trans (answers.standing_eq spares))
  · rw [hcalls] at hhead
    exact absurd (Option.some.inj hhead) (unread found)

/-! ### Records -/

structure Recorded (scribe : Scribe δ κ σ τ key) (found r : Resource σ τ) (type : String)
    (r' : Resource σ τ) (turn : Turn δ κ) : Prop where
  recorded : ∃ now changes, r' = r.recorded now type changes
  mindful : scribe.Mindful found r' turn
  leaves : scribe.Leaves r'.conditions

def Admits (scribe : Scribe δ κ σ τ key) (r : Resource σ τ) (type : String)
    (changes : List Condition.Change) : Prop :=
  ∀ now, scribe.Edits r.generation r.conditions (r.recorded now type changes).conditions

variable {type : String} {changes : List Condition.Change} {sent : Bool}

theorem Admits.recorded (admits : scribe.Admits r type changes)
    (resembles : Pass.Resembles found r) (records : r.Records type changes sent r')
    (h : scribe.Edits found.generation r.conditions r'.conditions → scribe.Mindful found r' turn) :
    scribe.Recorded found r type r' turn := by
  obtain ⟨⟨now, rfl⟩, -⟩ := records
  have edits := admits now
  exact ⟨⟨now, changes, rfl⟩, h (resembles.generation ▸ edits), scribe.leaves edits⟩

theorem Recorded.ends (recorded : scribe.Recorded found r type r' turn) : scribe.Ends turn :=
  recorded.mindful.ends recorded.leaves

theorem keeps_ask_bind (mindful : scribe.Mindful found r turn) {call : Call δ κ}
    {gets : α → Resource σ τ → Turn δ κ → Prop} {f : call.Reply → Pass δ κ (Resource σ τ) α}
    (spares : call.Spares τ)
    (h : ∀ reply turn', scribe.Mindful found r turn' →
      (f reply).Keeps (scribe.rules scope) gets r turn') :
    (Pass.ask call >>= f).Keeps (scribe.rules scope) gets r turn := by
  apply Pass.keeps_ask_bind mindful.kept
  intro reply turn' answer
  exact h reply turn' (mindful.spares spares answer)

theorem keeps_ask (mindful : scribe.Mindful found r turn) {call : Call δ κ}
    (spares : call.Spares τ) :
    (Pass.ask call : Pass δ κ (Resource σ τ) call.Reply).Keeps (scribe.rules scope)
      (fun _ r' turn' => r' = r ∧ scribe.Mindful found r turn') r turn := by
  apply Pass.keeps_ask mindful.kept
  intro reply turn' answer
  exact ⟨rfl, mindful.spares spares answer⟩

/-! ### Writes -/

variable [LawfulCodec σ] [LawfulStatus τ]

/-- A write that is refused leaves the ledger as it is. -/
theorem Mindful.refused (mindful : scribe.Mindful found r turn) {status : τ} {failure : Failure}
    (own : r.key = key) (answer : (scribe.rules scope).answers turn
      (.patchStatus (Status.kind τ) r.key (statusPatch r.status status)) (.error failure) turn') :
    scribe.Ends turn' := by
  obtain ⟨hbefore, cluster, answers, hview, hcalls⟩ := answer
  rw [own] at answers
  have refused : cluster = turn.cluster := mindful.attached.patches status answers
  have same : turn'.cluster.standing τ key = turn.cluster.standing τ key :=
    hview.trans (congrArg _ refused)
  refine ⟨.inl (hbefore ▸ Cluster.ledger_eq_of_standing same), fun _ _ begun => ?_⟩
  rcases mindful.leaves with leaves | unwritten
  · exact ⟨r.conditions, (mindful.attached.undisturbed same).ledger_eq, leaves⟩
  · apply absurd _ (begun failure)
    rw [hcalls, Pass.writes, List.filterMap_append, ← Pass.writes, unwritten]
    rfl

theorem Mindful.written (mindful : scribe.Mindful found r turn) {status : τ} (own : r.key = key)
    (answer : (scribe.rules scope).answers turn
      (.patchStatus (Status.kind τ) r.key (statusPatch r.status status)) (.ok ()) turn')
    (edits : scribe.Edits found.generation r.conditions (r.put status).conditions) :
    scribe.Mindful found (r.put status) turn' := by
  obtain ⟨hbefore, cluster, answers, hview, hcalls⟩ := answer
  rw [own] at answers
  have attached : Cluster.Attached key found (r.put status) cluster :=
    mindful.attached.patches status answers
  have attached' := attached.undisturbed hview
  have began : turn'.calls.head? = some (scribe.reading found) := by
    rw [hcalls]
    exact head?_append mindful.began _
  refine ⟨attached', began, .inr ⟨found, _, _, began, ?_, attached'.ledger_eq, edits⟩, ?_⟩
  · rw [hbefore]
    exact mindful.attached.ledger_eq
  · exact .inl (scribe.leaves edits)

/-- A change of the status is a write, if it edits the ledger as it should. -/
theorem follows (own : found.key = key) (origin : Resource σ τ) :
    Follows (scribe.rules scope)
      (fun r turn => r = origin ∧ scribe.Mindful found r turn)
      fun _ r' turn => scribe.Edits found.generation origin.conditions r'.conditions →
        scribe.Mindful found r' turn where
  clock r turn h := by
    have spares : (Call.now : Call δ κ).Spares τ := Call.spares trivial
    exact ⟨h.2.kept, fun now turn' answer => ⟨h.1, h.2.spares spares answer⟩⟩
  sends r turn h status := by
    obtain ⟨rfl, mindful⟩ := h
    have own' : r.key = key := mindful.attached.resembles.key.trans own
    refine ⟨mindful.kept, fun reply turn' answer => ?_⟩
    cases reply with
    | ok value => exact fun edits => mindful.written own' answer edits
    | error failure => exact mindful.refused own' answer
  rests r turn h := by
    obtain ⟨rfl, mindful⟩ := h
    intro edits
    exact ⟨mindful.attached.initialized, mindful.began, mindful.kept, .inl (scribe.leaves edits)⟩

/-! ### The parts of a pass -/

theorem keeps_recordCondition (own : found.key = key) (mindful : scribe.Mindful found r turn)
    (admits : scribe.Admits r type changes) :
    (Pass.recordCondition type changes : Pass δ κ (Resource σ τ) Unit).Keeps (scribe.rules scope)
      (fun _ => scribe.Recorded found r type) r turn := by
  apply Pass.Keeps.mono ((follows own r).recordCondition type changes ⟨rfl, mindful⟩)
  intro _ r' turn' ⟨sent, records, h⟩
  exact admits.recorded mindful.attached.resembles records h

theorem keeps_write (own : found.key = key) (mindful : scribe.Mindful found r turn)
    {mutate : Mutation τ} (exact : mutate.Exact)
    (edits : scribe.Edits r.generation r.conditions
      (r.put (mutate r.statusOrInitial).1).conditions) :
    (Pass.patchStatus mutate : Pass δ κ (Resource σ τ) Bool).Keeps (scribe.rules scope)
      (fun _ r' turn' => r' = r.put (mutate r.statusOrInitial).1 ∧ scribe.Mindful found r' turn')
      r turn := by
  apply Pass.Keeps.mono ((follows own r).change exact ⟨rfl, mindful⟩)
  rintro _ r' turn' ⟨rfl, h⟩
  exact ⟨rfl, h (mindful.attached.resembles.generation ▸ edits)⟩

theorem keeps_fetch (own : found.key = key) (mindful : scribe.Mindful found r turn)
    {kind reason name : String}
    {read : (key : ObjectKey) → Pass δ κ (Resource σ τ) (Except LookupError α)}
    (reads : (read ⟨r.metadata.space, name⟩).Keeps (scribe.rules scope)
      (fun _ r' turn' => r' = r ∧ scribe.Mindful found r turn') r turn)
    (finds : scribe.Admits r type (holds reason (Wording.found kind name)))
    (misses : ∀ message, scribe.Admits r type (fails reason message)) :
    (Pass.fetch kind type reason name read).Keeps (scribe.rules scope)
      (fun _ => scribe.Recorded found r type) r turn := by
  have resembles := mindful.attached.resembles
  let looked (_ : Except LookupError α) (r' : Resource σ τ) (turn' : Turn δ κ) : Prop :=
    r' = r ∧ scribe.Mindful found r' turn'
  have hreads : (read ⟨r.metadata.space, name⟩).Keeps (scribe.rules scope)
      (fun reply r' turn' => r' = r ∧ looked reply r turn') r turn := by
    apply reads.mono
    intro reply r' turn' h
    exact ⟨h.1, rfl, h.2⟩
  apply Pass.Keeps.mono (Follows.fetch hreads (fun _ => follows own r) (fun _ => follows own r) ?_)
  · intro value r' turn' ⟨sent, records, h⟩
    exact finds.recorded resembles records h
  · intro e sent r' turn' records h
    exact ((misses e.text).recorded resembles records h).ends

/-- Whether a client could be built is recorded, and a pass without a client ends. -/
theorem keeps_recordCreation (own : found.key = key) (mindful : scribe.Mindful found r turn)
    {ε : Type} {cause : ε → Cause} {text : ε → String} (created : Except ε α)
    (builds : scribe.Admits r typeClient r.creation)
    (breaks : ∀ message, scribe.Admits r typeClient (fails Wording.clientCreated message)) :
    (Pass.recordCreation cause text created : Pass δ κ (Resource σ τ) α).Keeps (scribe.rules scope)
      (fun _ => scribe.Recorded found r typeClient) r turn := by
  have resembles := mindful.attached.resembles
  cases created with
  | ok client =>
    apply Pass.Keeps.mono ((follows own r).recordCreation client ⟨rfl, mindful⟩)
    intro _ r' turn' ⟨_, sent, records, h⟩
    exact builds.recorded resembles records h
  | error e =>
    apply (follows own r).recordCreation_error e ⟨rfl, mindful⟩
    intro sent r' turn' records h
    exact ((breaks _).recorded resembles records h).ends

end Scribe

end DynamicDns
