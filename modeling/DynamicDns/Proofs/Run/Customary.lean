import DynamicDns.Proofs.Pass.Books
import DynamicDns.Proofs.Run.Upkeep

/-!
# Customary ledgers

A provider pass records what became of the secret before it looks up the config map, and what became
of that before it builds a client. So a ledger that only provider passes have written is customary: its
conditions stand in this order, and of a client that holds it says that it was created, since nothing
else is ever said of one. If a provider is settled and its ledger is customary, then all of its status
is known but the times (`Provider.Settled.timeless_eq`).
-/

namespace DynamicDns

/-! ### Ledgers that provider passes write -/

namespace Condition

def reportedTypes : List String := [typeSecret, typeConfigMap, typeClient]

def SaysCreated (c : Condition) : Prop :=
  c.status = statusTrue →
    c.reason = some Wording.clientCreated ∧ c.message = some Wording.clientCreatedMessage

structure Customary (conditions : List Condition) : Prop where
  order : types conditions <+: reportedTypes
  client : ∀ c, find? conditions typeClient = some c → c.SaysCreated

variable {conditions before after : List Condition} {names : List String} {generation : Int64}
  {changes : List Change}

theorem prefix_reportedTypes : names <+: reportedTypes ↔
    names = [] ∨ names = [typeSecret] ∨ names = [typeSecret, typeConfigMap] ∨
      names = reportedTypes := by
  simp only [reportedTypes, List.prefix_cons_iff, List.prefix_nil]
  constructor
  · rintro (rfl | ⟨_, rfl, rfl | ⟨_, rfl, rfl | ⟨_, rfl, rfl⟩⟩⟩) <;> simp
  · rintro (rfl | rfl | rfl | rfl) <;> simp

/-- A ledger in which no type stands twice is read through its types. -/
theorem map_find?_types (distinct : Distinct conditions) :
    (types conditions).map (find? conditions) = conditions.map some := by
  induction conditions with
  | nil => rfl
  | cons c rest ih =>
    obtain ⟨hfresh, hrest⟩ := List.nodup_cons.1 distinct
    have hothers : (types rest).map (find? (c :: rest)) = (types rest).map (find? rest) := by
      apply List.map_congr_left
      intro type hmem
      rw [find?_cons, if_neg]
      rintro rfl
      exact hfresh hmem
    rw [types_cons, List.map_cons, List.map_cons, hothers, ih hrest, find?_cons, if_pos rfl]

theorem customary_nil : Customary [] := by
  refine ⟨List.nil_prefix, fun c absurd => ?_⟩
  cases absurd

namespace Customary

/-- All is reported on where a client is. -/
theorem types_eq (customary : Customary conditions) (client : typeClient ∈ types conditions) :
    types conditions = reportedTypes := by
  rcases prefix_reportedTypes.1 customary.order with h | h | h | h
  · simp [h] at client
  · simp [h, typeSecret, typeClient] at client
  · simp [h, typeSecret, typeConfigMap, typeClient] at client
  · exact h

theorem distinct (customary : Customary conditions) : Distinct conditions :=
  List.Nodup.sublist customary.order.sublist (by decide)

/-- What is recorded of a client says that it was created, or that it could not be. -/
theorem find?_creates (customary : Customary before) (creates : Creates before changes)
    (now : String) (c : Condition)
    (found : find? (assign now typeClient (changes ++ [.observed generation]) before).1 typeClient =
      some c) : c.SaysCreated := by
  obtain ⟨time, found'⟩ := find?_assign now typeClient (changes ++ [.observed generation]) before
  obtain rfl := Option.some.inj (found'.symm.trans found)
  intro holds
  rcases creates with rfl | ⟨message, rfl⟩
  · split_ifs with already
    · cases hbefore : find? before typeClient with
      | none => simp [hbefore] at already
      | some c =>
        -- Only the status and the generation of the condition are assigned, and it held before
        apply customary.client c hbefore
        simpa [hbefore] using already
    · exact ⟨rfl, rfl⟩
  · have failed : statusFalse = statusTrue := holds
    exact absurd failed (by decide)

theorem edits (customary : Customary before) (edits : Provider.Edits generation before after) :
    Customary after := by
  have order := prefix_reportedTypes.1 customary.order
  cases edits with
  | aside => exact customary
  | secret now changes settling =>
    constructor
    · rw [types_assign, prefix_reportedTypes]
      rcases order with h | h | h | h <;> simp [h, reportedTypes]
    · rw [find?_assign_of_ne (by decide)]
      exact customary.client
  | configMap now changes settling unlocked =>
    constructor
    · rw [types_assign, prefix_reportedTypes]
      rcases order with h | h | h | h <;> simp_all [reportedTypes, typeSecret, typeConfigMap]
    · rw [find?_assign_of_ne (by decide)]
      exact customary.client
  | client now changes creates equipped =>
    constructor
    · rw [types_assign, prefix_reportedTypes]
      rcases order with h | h | h | h <;>
        simp_all [reportedTypes, typeSecret, typeConfigMap, typeClient]
    · exact customary.find?_creates creates now

end Customary

end Condition

/-! ### Providers that are settled -/

namespace Condition

variable {conditions : List Condition} {c : Condition} {type reason message : String}
  {generation : Int64}

def held (type reason message : String) (generation : Int64) : Condition :=
  ⟨type, statusTrue, some reason, some message, some generation, none⟩

theorem timeless_eq_held (found : find? conditions type = some c)
    (meets : Meets (Pass.holds reason message ++ [.observed generation]) c) :
    c.timeless = held type reason message generation := by
  have htype : c.type = type := by simpa using List.find?_some found
  obtain ⟨hstatus, hreason, hmessage, hgeneration⟩ := meets_holds.1 meets
  rw [timeless, htype, hstatus, hreason, hmessage, hgeneration, held]

end Condition

def ProviderStatus.timeless (status : ProviderStatus) : ProviderStatus :=
  { status with conditions := status.conditions.map Condition.timeless }

namespace Provider

open Condition (Customary held typeSecret typeConfigMap typeClient)

def timeless (provider : Provider) : Provider :=
  { provider with status := provider.status.map ProviderStatus.timeless }

/-- What a provider reports when nothing fails, but for the times. -/
def settledLedger (provider : Provider) : List Condition :=
  [held typeSecret Wording.secretFound (Wording.found "Secret" provider.spec.secretName)
      provider.generation,
    held typeConfigMap Wording.configMapFound (Wording.found "ConfigMap" provider.spec.configMap)
      provider.generation,
    held typeClient Wording.clientCreated Wording.clientCreatedMessage provider.generation]

def settledAt (ip : String) (provider : Provider) : Provider :=
  { provider with status := some ⟨ip, ip, some provider.generation, provider.settledLedger⟩ }

variable {ip : String} {r : Provider}

theorem Settled.ledger_eq (settled : r.Settled ip) (customary : Customary r.conditions) :
    r.conditions.map Condition.timeless = settledLedger r := by
  obtain ⟨secret, hsecret, meetsSecret⟩ := settled.unlocked
  obtain ⟨configMap, hconfigMap, meetsConfigMap⟩ := settled.equipped
  obtain ⟨client, hclient, meetsClient⟩ := settled.client
  have htypes : Condition.types r.conditions = Condition.reportedTypes := by
    apply customary.types_eq
    simp [← Condition.isSome_find?_iff, hclient]
  have hconditions : r.conditions = [secret, configMap, client] := by
    have hfound := Condition.map_find?_types customary.distinct
    simp only [htypes, Condition.reportedTypes, List.map_cons, hsecret, hconfigMap, hclient] at hfound
    apply List.map_injective_iff.2 fun _ _ => Option.some.inj
    exact hfound.symm
  have meetsClient' : Condition.Meets (Pass.holds Wording.clientCreated Wording.clientCreatedMessage ++
      [.observed r.generation]) client := by
    obtain ⟨hstatus, hgeneration⟩ := Condition.meets_hold.1 meetsClient
    obtain ⟨hreason, hmessage⟩ := customary.client client hclient hstatus
    exact Condition.meets_holds.2 ⟨hstatus, hreason, hmessage, hgeneration⟩
  simp only [hconditions, List.map_cons, List.map_nil, settledLedger,
    Condition.timeless_eq_held hsecret meetsSecret,
    Condition.timeless_eq_held hconfigMap meetsConfigMap,
    Condition.timeless_eq_held hclient meetsClient']
  rfl

/-- A settled provider is known but for the times, if its ledger is customary. -/
theorem Settled.timeless_eq (settled : r.Settled ip) (customary : Customary r.conditions) :
    timeless r = settledAt ip r := by
  have hledger := settled.ledger_eq customary
  obtain ⟨metadata, spec, _ | status⟩ := r
  · cases hledger
  · have publicIp : status.publicIp = ip := settled.publicIp
    have providerIp : status.providerIp = ip := settled.providerIp
    have generation : status.observedGeneration = some _ := settled.generation
    have conditions : status.conditions.map Condition.timeless = _ := hledger
    rw [timeless, settledAt]
    simp [ProviderStatus.timeless, publicIp, providerIp, generation, conditions]

/-- What a settled provider is depends on its metadata and its specification only. -/
theorem settledAt_of_resembles {provider : Provider} (resembles : Pass.Resembles provider r) :
    settledAt ip r = settledAt ip provider := by
  obtain ⟨hmetadata, hspec⟩ := resembles
  obtain ⟨metadata, spec, status⟩ := r
  obtain rfl : metadata = provider.metadata := hmetadata
  obtain rfl : spec = provider.spec := hspec
  rfl

end Provider

end DynamicDns
