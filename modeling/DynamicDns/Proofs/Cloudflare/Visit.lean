import DynamicDns.Proofs.Cloudflare.Conversation

/-!
# Visits

To read or change the records of a zone the client visits it: the zone is looked up by name, and if
it is found its records are listed page by page. A visit is told by its turns, and by what was read
if it came to its end.
-/

namespace DynamicDns.Cloudflare

inductive Listing (zone : String) : Nat → List Turn → Option (List DnsRecord) → Prop
  | broken {page turn} (asked : turn.operation = .records zone page) (failed : ¬turn.Answered) :
    Listing zone page [turn] none
  | last {page request received batch pages} (carries : Carries .records received (batch, pages))
    (ends : batch = [] ∨ (pages.getD 1).toNat ≤ page) :
    Listing zone page [⟨.records zone page, request, some received⟩]
      (some (batch.filter (·.type == managedType)))
  | more {page request received batch pages turns reading}
    (carries : Carries .records received (batch, pages))
    (goes : batch ≠ [] ∧ page < (pages.getD 1).toNat)
    (rest : Listing zone (page + 1) turns reading) :
    Listing zone page (⟨.records zone page, request, some received⟩ :: turns)
      (reading.map (batch.filter (·.type == managedType) ++ ·))

/-- The turns of a visit to a configured zone, and the zone and its A records if it is found and its
listing comes to its end. -/
inductive Visit (client : Client) (wanted : ZoneConfig) :
    List Turn → Option (Zone × List DnsRecord) → Prop
  | unreached (h : ¬client.Reaches "/zones") : Visit client wanted [] none
  | unresolved {turn} (asked : turn.operation = .zones wanted.name)
    (h : ∀ zone, ¬turn.Resolves wanted.name zone) : Visit client wanted [turn] none
  | listed {lookup zone turns reading} (found : lookup.Resolves wanted.name zone)
    (listing : Listing zone.id 1 turns reading) :
    Visit client wanted (lookup :: turns) (reading.map (zone, ·))

/-! ### What a listing is -/

section

variable {zone : String} {page : Nat} {turns : List Turn} {reading : Option (List DnsRecord)}

theorem Turn.answered_of_carries {request : Http.Request} {received : Http.Response}
    {value : List DnsRecord × Option UInt32} (carries : Carries .records received value) :
    Turn.Answered ⟨.records zone page, request, some received⟩ :=
  ⟨received, rfl, value, carries⟩

theorem Listing.operation (h : Listing zone page turns reading) :
    ∀ turn ∈ turns, ∃ page, turn.operation = .records zone page := by
  induction h with
  | broken asked failed => simpa using ⟨_, asked⟩
  | last carries ends => simp
  | more carries goes rest ih =>
    intro turn hturn
    rcases List.mem_cons.1 hturn with rfl | hturn
    · exact ⟨_, rfl⟩
    · exact ih turn hturn

theorem Listing.ne_nil (h : Listing zone page turns reading) : turns ≠ [] := by
  cases h <;> simp

/-- Nothing is asked after a page that fails. -/
theorem Listing.prompt (h : Listing zone page turns reading) :
    ∀ turn ∈ turns.dropLast, turn.Answered := by
  induction h with
  | broken | last => simp
  | more carries goes rest ih =>
    rw [List.dropLast_cons_of_ne_nil rest.ne_nil]
    intro turn hturn
    rcases List.mem_cons.1 hturn with rfl | hturn
    · exact Turn.answered_of_carries carries
    · exact ih turn hturn

theorem Listing.isSome_iff (h : Listing zone page turns reading) :
    reading.isSome = true ↔ ∀ turn ∈ turns, turn.Answered := by
  induction h with
  | broken asked failed => simpa using failed
  | last carries ends => simpa using Turn.answered_of_carries carries
  | more carries goes rest ih =>
    rw [Option.isSome_map, ih]
    simp [Turn.answered_of_carries carries]

theorem Listing.type_eq {records : List DnsRecord} (h : Listing zone page turns (some records)) :
    ∀ record ∈ records, record.type = managedType := by
  generalize hreading : some records = reading at h
  induction h generalizing records with
  | broken => cases hreading
  | last carries ends =>
    cases hreading
    intro record hrecord
    simpa using (List.mem_filter.1 hrecord).2
  | more carries goes rest ih =>
    obtain ⟨later, rfl, rfl⟩ := Option.map_eq_some_iff.1 hreading.symm
    intro record hrecord
    rcases List.mem_append.1 hrecord with hrecord | hrecord
    · simpa using (List.mem_filter.1 hrecord).2
    · exact ih rfl record hrecord

end

/-! ### What a visit is -/

namespace Visit

variable {client : Client} {wanted : ZoneConfig} {turns : List Turn} {zone : Zone}
  {records : List DnsRecord} {reading : Option (Zone × List DnsRecord)}

theorem method_eq (h : Visit client wanted turns reading) :
    ∀ turn ∈ turns, turn.operation.method = .get := by
  cases h with
  | unreached => simp
  | unresolved asked => simp [asked, Operation.method]
  | listed found listing =>
    intro turn hturn
    rcases List.mem_cons.1 hturn with rfl | hturn
    · rw [found.1, Operation.method]
    · obtain ⟨page, hpage⟩ := listing.operation turn hturn
      rw [hpage, Operation.method]

theorem prompt (h : Visit client wanted turns reading) :
    ∀ turn ∈ turns.dropLast, turn.Answered := by
  cases h with
  | unreached | unresolved => simp
  | listed found listing =>
    rw [List.dropLast_cons_of_ne_nil listing.ne_nil]
    intro turn hturn
    rcases List.mem_cons.1 hturn with rfl | hturn
    · exact found.answered
    · exact listing.prompt turn hturn

theorem filter_lookups {zone : String} {page : Nat} {listed : Option (List DnsRecord)}
    (h : Listing zone page turns listed) : turns.filter (·.operation.isLookup) = [] := by
  rw [List.filter_eq_nil_iff]
  intro turn hturn
  obtain ⟨page, hpage⟩ := h.operation turn hturn
  simp [hpage, Operation.isLookup]

/-- A visit that reads the records has its zone resolved, and all its turns are answered. -/
theorem complete (h : Visit client wanted turns (some (zone, records))) :
    (∀ turn ∈ turns, turn.Answered) ∧
    (∃ lookup, turns.filter (·.operation.isLookup) = [lookup] ∧ lookup.Resolves wanted.name zone) ∧
    zone.name = wanted.name ∧ ∀ record ∈ records, record.type = managedType := by
  generalize hreading : some (zone, records) = reading at h
  cases h with
  | unreached | unresolved => cases hreading
  | @listed lookup found turns listed resolves listing =>
    obtain ⟨records, rfl, hpair⟩ := Option.map_eq_some_iff.1 hreading.symm
    cases hpair
    refine ⟨?_, ⟨lookup, ?_, resolves⟩, resolves.name_eq, listing.type_eq⟩
    · intro turn hturn
      rcases List.mem_cons.1 hturn with rfl | hturn
      · exact resolves.answered
      · exact listing.isSome_iff.1 rfl turn hturn
    · rw [List.filter_cons_of_pos (by rw [resolves.1, Operation.isLookup]), filter_lookups listing]

/-- A visit that reads nothing has its zone not resolved, or a turn that is not answered. -/
theorem incomplete (h : Visit client wanted turns none) :
    (turns.filter (·.operation.isLookup)).length ≤ 1 ∧
    ¬((∀ turn ∈ turns, turn.Answered) ∧
      List.Forall₂ (fun turn (wanted : ZoneConfig) => ∃ zone, turn.Resolves wanted.name zone)
        (turns.filter (·.operation.isLookup)) [wanted]) := by
  generalize hreading : none = reading at h
  cases h with
  | unreached =>
    refine ⟨by simp, ?_⟩
    rintro ⟨-, h⟩
    cases h
  | @unresolved turn asked h => simp [asked, Operation.isLookup, h]
  | listed found listing =>
    have hbroken := listing.isSome_iff.not.1 (by simpa using hreading.symm)
    refine ⟨?_, ?_⟩
    · rw [List.filter_cons_of_pos (by rw [found.1, Operation.isLookup]), filter_lookups listing]
      simp
    · rintro ⟨hanswered, -⟩
      exact hbroken fun turn hturn => hanswered turn (List.mem_cons_of_mem _ hturn)

end Visit

/-! ### How the client visits -/

namespace Client

variable {α : Type} {client : Client}

/-- A zone is found by its exact name, or the client comes to nothing. -/
theorem converses_zoneId (client : Client) (name : String) :
    client.Converses (client.zoneId name) fun turns result =>
      (∃ e, result = .error e ∧ ((turns = [] ∧ ¬client.Reaches "/zones") ∨
        ∃ turn, turns = [turn] ∧ turn.operation = .zones name ∧ ∀ zone, ¬turn.Resolves name zone)) ∨
      ∃ turn zone, client.Reaches "/zones" ∧ turns = [turn] ∧ turn.Resolves name zone ∧
        result = .ok zone.id := by
  have hrequest : client.Converses (client.request .zones .get "/zones" [("name", name)] none)
      fun turns result => (turns = [] ∧ ¬client.Reaches "/zones" ∧ ∃ e, result = .error e) ∨
        ∃ request response, client.Reaches "/zones" ∧
          turns = [⟨.zones name, request, response⟩] ∧ Told .zones response result := by
    apply converses_request (.zones name)
    · intro e unreached
      exact .inl ⟨rfl, unreached, e, rfl⟩
    · intro request response result reaches told
      exact .inr ⟨request, response, reaches, rfl, told⟩
  refine Converses.bind hrequest ?_ ?_
  · rintro _ ⟨found, total⟩ (⟨-, -, e, h⟩ | ⟨request, response, reaches, rfl, told⟩)
    · cases h
    · obtain ⟨received, rfl, carries⟩ := (told _).1 rfl
      cases hfind : found.find? fun zone => zone.name == name with
      | none =>
        simp only [hfind]
        apply converses_throw
        refine .inl ⟨_, rfl, .inr ⟨_, rfl, rfl, ?_⟩⟩
        rintro zone ⟨-, received', found', total', h, carries', hfind'⟩
        cases h
        cases carries.unique carries'
        simp [hfind] at hfind'
      | some zone =>
        simp only [hfind]
        apply converses_pure
        exact .inr ⟨_, zone, reaches, rfl, ⟨rfl, received, found, total, rfl, carries, hfind⟩, rfl⟩
  · rintro _ e (⟨rfl, unreached, -⟩ | ⟨request, response, -, rfl, told⟩)
    · exact .inl ⟨e, rfl, .inl ⟨rfl, unreached⟩⟩
    · refine .inl ⟨e, rfl, .inr ⟨_, rfl, rfl, ?_⟩⟩
      rintro zone ⟨-, received, found, total, hresponse, carries, -⟩
      cases (told _).2 ⟨received, hresponse, carries⟩

theorem converses_recordsFrom {zone : String}
    (h : client.Reaches ("/zones/" ++ zone ++ "/dns_records")) (page : Nat) :
    client.Converses (client.recordsFrom zone page) fun turns result =>
      Listing zone page turns result.toOption := by
  -- Pages come to an end because their number fits into 32 bits.
  induction hleft : UInt32.size - page using Nat.strongRecOn generalizing page with
  | _ left ih =>
  have hrequest : client.Converses
      (client.request .records .get ("/zones/" ++ zone ++ "/dns_records")
        [("type", managedType), ("page", toString page), ("per_page", toString pageSize)] none)
      fun turns result => ∃ request response,
        turns = [⟨.records zone page, request, response⟩] ∧ Told .records response result := by
    apply converses_request (.records zone page)
    · intro e unreached
      exact absurd h unreached
    · intro request response result reaches told
      exact ⟨request, response, rfl, told⟩
  rw [Client.recordsFrom]
  refine Converses.bind hrequest ?_ ?_
  · rintro _ ⟨batch, pages⟩ ⟨request, response, rfl, told⟩
    obtain ⟨received, rfl, carries⟩ := (told _).1 rfl
    dsimp only
    split
    · rename_i ends
      apply converses_pure
      exact .last carries (by simpa using ends)
    · rename_i goes
      rw [not_or, List.isEmpty_iff, Nat.not_le] at goes
      have bound := (pages.getD 1).toNat_lt_size
      refine Converses.bind (ih _ (by omega) (page + 1) rfl) ?_ ?_
      · intro turns later listing
        apply converses_pure
        rw [List.append_nil]
        exact .more carries goes listing
      · intro turns e listing
        exact .more carries goes listing
  · rintro _ e ⟨request, response, rfl, told⟩
    apply Listing.broken rfl
    rintro ⟨received, hresponse, value, carries⟩
    cases (told value).2 ⟨received, hresponse, carries⟩

/-- What comes after a visit goes on with what was read. -/
theorem converses_visit (wanted : ZoneConfig) {f : String → List DnsRecord → Exchanging α}
    {ends : List Turn → Except ClientError α → Prop}
    (incomplete : ∀ turns e, Visit client wanted turns none → ends turns (.error e))
    (complete : ∀ before zone records, client.Reaches "/zones" →
      Visit client wanted before (some (zone, records)) →
        client.Converses (f zone.id records) fun after result => ends (before ++ after) result) :
    client.Converses (do
      let id ← client.zoneId wanted.name
      let records ← client.records id
      f id records) ends := by
  refine Converses.bind (client.converses_zoneId wanted.name) ?_ ?_
  · rintro before id (⟨e, hresult, -⟩ | ⟨lookup, zone, reaches, rfl, resolves, hresult⟩)
    · cases hresult
    · cases hresult
      have lists : client.Reaches ("/zones/" ++ zone.id ++ "/dns_records") := by
        rw [String.append_assoc]
        exact reaches.below _
      refine Converses.bind (converses_recordsFrom lists 1) ?_ ?_
      · intro middle records listing
        exact complete (lookup :: middle) zone records reaches (.listed resolves listing)
      · intro turns e listing
        exact incomplete _ e (.listed resolves listing)
  · rintro turns e (⟨e', -, ⟨rfl, unreached⟩ | ⟨turn, rfl, asked, unresolved⟩⟩ |
      ⟨lookup, zone, -, -, -, hresult⟩)
    · exact incomplete _ e (.unreached unreached)
    · exact incomplete _ e (.unresolved asked unresolved)
    · cases hresult

end Client

end DynamicDns.Cloudflare
