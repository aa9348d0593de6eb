import DynamicDns.Proofs.Cloudflare.Visit
import Mathlib.Data.List.Forall2

/-!
# Pages

A server answers a listing page by page. Each page may show any records and tell any number of
pages, and it need not agree with what other pages tell, nor be a page at all. The listing asks for
one page after the other until one stops it, which happens before the page numbers run out, and it
comes to the A records of all the pages that it asked for, unless the last of them failed.
-/

namespace DynamicDns.Cloudflare

/-- The records of a page and the number of pages that it tells, if the answer is a page at all. -/
def page? (response : Option Http.Response) : Option (List DnsRecord × Option UInt32) := do
  let received ← response
  let envelope ← Envelope.ofResponse? .records received
  (envelope.answer received.status).toOption

theorem page?_eq_some {response : Option Http.Response} {value : List DnsRecord × Option UInt32} :
    page? response = some value ↔
      ∃ received, response = some received ∧ Carries .records received value := by
  have hok (result : Except ClientError (List DnsRecord × Option UInt32)) :
      result.toOption = some value ↔ result = .ok value := by
    cases result <;> simp [Except.toOption]
  simp only [page?, Carries, Option.bind_eq_bind, Option.bind_eq_some_iff, hok]

theorem page?_of_carries {received : Http.Response} {value : List DnsRecord × Option UInt32}
    (carries : Carries .records received value) : page? (some received) = some value :=
  page?_eq_some.2 ⟨received, rfl, carries⟩

/-- What a server answers when it is asked for the first time, for the second time, and so on. -/
abbrev Pages := Nat → Option Http.Response

namespace Pages

def answer (pages : Pages) (request : Http.Request) (log : Log) : Option Http.Response × Log :=
  let response := pages (log.length + 1)
  (response, log ++ [(request, response)])

/-- Whether a listing goes no further than a page: there is no such page, it is empty, or it is not
below the number of pages that it tells, which is one if it tells none. -/
def Stops (pages : Pages) (page : Nat) : Prop :=
  ∀ batch total, page? (pages page) = some (batch, total) → batch = [] ∨ (total.getD 1).toNat ≤ page

def managed (pages : Pages) (page : Nat) : List DnsRecord :=
  ((page? (pages page)).elim [] Prod.fst).filter (·.type == managedType)

variable {pages : Pages} {page : Nat} {batch : List DnsRecord} {total : Option UInt32}

theorem managed_of_page? (h : page? (pages page) = some (batch, total)) :
    pages.managed page = batch.filter (·.type == managedType) := by
  rw [managed, h, Option.elim_some]

theorem stops_iff (h : page? (pages page) = some (batch, total)) :
    pages.Stops page ↔ batch = [] ∨ (total.getD 1).toNat ≤ page := by
  simp [Stops, h]

theorem stops_of_page?_eq_none (h : page? (pages page) = none) : pages.Stops page := by
  simp [Stops, h]

/-- A page that does not stop a listing is below a number that fits into 32 bits. -/
theorem lt_size_of_not_stops (h : ¬pages.Stops page) : page + 1 < UInt32.size := by
  simp only [Stops, not_forall, not_or, Nat.not_le] at h
  obtain ⟨batch, total, -, -, below⟩ := h
  have bound := (total.getD 1).toNat_lt_size
  omega

/-! ### What a server has shown -/

def Shown (pages : Pages) (log : Log) : Prop :=
  log.map Prod.snd = (List.range' 1 log.length).map pages

theorem shown_answer (request : Http.Request) {log : Log} (h : pages.Shown log) :
    pages.Shown (pages.answer request log).2 := by
  rw [Shown] at h
  simp [Shown, answer, h, List.range'_1_concat, Nat.add_comm]

theorem shown_run {α : Type} (exchange : Http.Exchange α) {log : Log} (h : pages.Shown log) :
    pages.Shown (exchange.run pages.answer log).2 := by
  induction exchange generalizing log with
  | done value => exact h
  | call request next ih => exact ih _ (shown_answer request h)

theorem yields_overhears (pages : Pages) {α : Type} (exchange : Http.Exchange α) (log : Log) :
    exchange.Yields Overhears log (exchange.run pages.answer log).1
      (exchange.run pages.answer log).2 :=
  Program.yields_run (fun _ _ => rfl) exchange log

end Pages

/-! ### The course of a listing -/

section

variable {client : Client} {zone : String} {pages : Pages} {last : Nat}
  {result : Except ClientError (List DnsRecord)} {log : Log}

/-- A listing asked for the pages up to the first that stops it, each of them once and in their order,
and came to the A records of all these pages, or to nothing if the last of them is none. The number
of that page fits into 32 bits. -/
structure Lists (client : Client) (zone : String) (pages : Pages) (last : Nat)
    (result : Except ClientError (List DnsRecord)) (log : Log) : Prop where
  first : 0 < last
  fits : last < UInt32.size
  goes : ∀ page, 0 < page → page < last → ¬pages.Stops page
  stops : pages.Stops last
  asked : List.Forall₂ (fun page (entry : Http.Request × Option Http.Response) =>
    (Operation.records zone page).SentBy client entry.1 ∧ entry.2 = pages page)
    (List.range' 1 last) log
  comes : result.toOption = (page? (pages last)).map fun _ =>
    (List.range' 1 last).flatMap pages.managed

/-- From a page on, as many more pages are asked for as it takes to reach one that stops the listing. -/
theorem Listing.course {page : Nat} {turns : List Turn} {reading : Option (List DnsRecord)}
    (h : Listing zone page turns reading)
    (sent : ∀ turn ∈ turns, turn.operation.SentBy client turn.request)
    (shown : turns.map Turn.response = (List.range' page turns.length).map pages) :
    ∃ more, (∀ i < more, ¬pages.Stops (page + i)) ∧ pages.Stops (page + more) ∧
      List.Forall₂ (fun page (turn : Turn) =>
        (Operation.records zone page).SentBy client turn.request ∧ turn.response = pages page)
        (List.range' page (more + 1)) turns ∧
      reading = (page? (pages (page + more))).map fun _ =>
        (List.range' page (more + 1)).flatMap pages.managed := by
  induction h with
  | @broken page turn asked failed =>
    have hresponse : turn.response = pages page := by simpa using shown
    have hsent : (Operation.records zone page).SentBy client turn.request := by
      simpa [asked] using sent
    have hnone : page? (pages page) = none := by
      rw [← hresponse, Option.eq_none_iff_forall_ne_some]
      intro value hvalue
      obtain ⟨received, hreceived, carries⟩ := page?_eq_some.1 hvalue
      refine failed ⟨received, hreceived, ?_⟩
      rw [asked]
      exact ⟨value, carries⟩
    refine ⟨0, by simp, Pages.stops_of_page?_eq_none hnone, ?_, by simp [hnone]⟩
    exact .cons ⟨hsent, hresponse⟩ .nil
  | @last page request received batch total carries ends =>
    have hresponse : some received = pages page := by simpa using shown
    have hsent : (Operation.records zone page).SentBy client request := by simpa using sent
    have hpage : page? (pages page) = some (batch, total) := by
      rw [← hresponse]
      exact page?_of_carries carries
    refine ⟨0, by simp, (Pages.stops_iff hpage).2 ends, ?_, ?_⟩
    · exact .cons ⟨hsent, hresponse⟩ .nil
    · simp [hpage, Pages.managed_of_page? hpage]
  | @more page request received batch total turns reading carries goes rest ih =>
    simp only [List.map_cons, List.length_cons, List.range'_succ, List.cons.injEq] at shown
    obtain ⟨hresponse, hrest⟩ := shown
    obtain ⟨hsent, sent⟩ := List.forall_mem_cons.1 sent
    obtain ⟨more, before, stops, hasked, hreading⟩ := ih sent hrest
    have hpage : page? (pages page) = some (batch, total) := by
      rw [← hresponse]
      exact page?_of_carries carries
    have hmore (i : Nat) : page + 1 + i = page + (i + 1) := by omega
    rw [hmore] at stops hreading
    refine ⟨more + 1, ?_, stops, ?_, ?_⟩
    · intro i hi
      cases i with
      | zero => simpa [Pages.stops_iff hpage] using goes
      | succ i =>
        rw [← hmore]
        exact before i (by omega)
    · rw [List.range'_succ]
      exact .cons ⟨hsent, hresponse⟩ hasked
    · rw [hreading, Option.map_map, List.range'_succ]
      simp only [List.range'_succ, List.flatMap_cons, Pages.managed_of_page? hpage]
      rfl

theorem Listing.lists {turns : List Turn} (h : Listing zone 1 turns result.toOption)
    (sent : ∀ turn ∈ turns, turn.operation.SentBy client turn.request)
    (shown : pages.Shown (turns.map Turn.heard)) :
    ∃ last, Lists client zone pages last result (turns.map Turn.heard) := by
  rw [Pages.Shown, List.map_map, List.length_map] at shown
  obtain ⟨more, before, stops, hasked, hreading⟩ := h.course sent shown
  rw [Nat.add_comm 1 more] at stops hreading
  refine ⟨more + 1, by omega, ?_, ?_, stops, List.forall₂_map_right_iff.2 hasked, hreading⟩
  · cases more with
    | zero => decide
    | succ more =>
      have := Pages.lt_size_of_not_stops (before more (by omega))
      omega
  · intro page hpos hlt
    have := before (page - 1) (by omega)
    rwa [Nat.add_sub_cancel' hpos] at this

/-- If all pages tell the same number, and those up to it are not empty, a listing asks for these. -/
theorem Lists.whole (h : Lists client zone pages last result log) {total : UInt32}
    (hpos : 0 < total.toNat) (full : ∀ page, 0 < page → page ≤ total.toNat →
      ∃ batch, batch ≠ [] ∧ page? (pages page) = some (batch, some total)) :
    log.length = total.toNat ∧
      result.toOption = some ((List.range' 1 total.toNat).flatMap pages.managed) := by
  have hlast : last = total.toNat := by
    rcases Nat.lt_trichotomy last total.toNat with hlt | heq | hgt
    · obtain ⟨batch, hbatch, hpage⟩ := full last h.first (Nat.le_of_lt hlt)
      have := (Pages.stops_iff hpage).1 h.stops
      simp only [hbatch, Option.getD_some, false_or] at this
      omega
    · exact heq
    · obtain ⟨batch, hbatch, hpage⟩ := full total.toNat hpos (Nat.le_refl _)
      exact absurd ((Pages.stops_iff hpage).2 (.inr (Nat.le_refl _))) (h.goes _ hpos hgt)
  obtain ⟨batch, -, hpage⟩ := full total.toNat hpos (Nat.le_refl _)
  constructor
  · rw [← h.asked.length_eq, List.length_range', hlast]
  · rw [h.comes, hlast, hpage, Option.map_some]

end

namespace Pair

def shown : Pages := fun page =>
  success (.arr [written (if page = 1 then first false else second false)]) 2

theorem page?_shown (page : Nat) :
    page? (shown page) = some ([if page = 1 then first false else second false], some 2) := by
  rw [shown]
  split <;> decide +kernel

def reader : Client := ⟨publicUrl, "secret", ⟨[]⟩⟩

theorem reaches_records : reader.Reaches ("/zones/" ++ "z" ++ "/dns_records") := by
  have hhttp : (Url.parse (reader.baseUrl ++ ("/zones/" ++ "z" ++ "/dns_records"))).toOption.map
      Url.isHttp = some true := by
    decide +kernel
  cases hparse : Url.parse (reader.baseUrl ++ ("/zones/" ++ "z" ++ "/dns_records")) with
  | ok url =>
    rw [hparse] at hhttp
    exact ⟨url, hparse, Option.some.inj hhttp⟩
  | error fault =>
    rw [hparse] at hhttp
    cases hhttp

end Pair

namespace Client

variable {client : Client} {zone : String}

theorem converses_records (h : client.Reaches ("/zones/" ++ zone ++ "/dns_records")) :
    client.Converses (client.records zone) fun turns result =>
      Listing zone 1 turns result.toOption := by
  rw [records]
  exact converses_recordsFrom h 1

theorem converses_records_unreached
    (h : ¬client.Reaches ("/zones/" ++ zone ++ "/dns_records")) :
    client.Converses (client.records zone) fun turns result => turns = [] ∧ result.toOption = none := by
  have hrequest : client.Converses
      (client.request .records .get ("/zones/" ++ zone ++ "/dns_records")
        [("type", managedType), ("page", toString 1), ("per_page", toString pageSize)] none)
      fun turns result => turns = [] ∧ ∃ e, result = .error e := by
    apply converses_request (.records zone 1)
    · intro e _
      exact ⟨rfl, e, rfl⟩
    · intro _ _ _ reaches _
      exact absurd reaches h
  rw [records, recordsFrom]
  refine Converses.bind hrequest ?_ ?_
  · rintro _ value ⟨-, e, hvalue⟩
    cases hvalue
  · rintro _ e ⟨rfl, -⟩
    exact ⟨rfl, rfl⟩

/-- Whatever pages a server shows, a listing that can be asked for ends, and lists all pages up to the
first that stops it. If all pages tell the same number, and those up to it are not empty, there are
that many requests. -/
theorem lists_all_pages (client : Client) (zone : String) (pages : Pages) :
    ∃ result log, (client.records zone).run.run pages.answer [] = (result, log) ∧
      (client.Reaches ("/zones/" ++ zone ++ "/dns_records") →
        (∃ last, Lists client zone pages last result log) ∧
        ∀ total : UInt32, 0 < total.toNat →
          (∀ page, 0 < page → page ≤ total.toNat →
            ∃ batch, batch ≠ [] ∧ page? (pages page) = some (batch, some total)) →
          log.length = total.toNat ∧
            result.toOption = some ((List.range' 1 total.toNat).flatMap pages.managed)) ∧
      (¬client.Reaches ("/zones/" ++ zone ++ "/dns_records") →
        result.toOption = none ∧ log = []) := by
  have yields := pages.yields_overhears (client.records zone).run []
  have hshown : pages.Shown ((client.records zone).run.run pages.answer []).2 :=
    Pages.shown_run (client.records zone).run rfl
  generalize (client.records zone).run.run pages.answer [] = run at yields hshown
  refine ⟨run.1, run.2, rfl, ?_, ?_⟩
  · intro reaches
    obtain ⟨turns, hlog, sent, listing⟩ := (converses_records reaches).turns yields
    rw [List.nil_append] at hlog
    rw [hlog] at hshown ⊢
    obtain ⟨last, lists⟩ := listing.lists sent hshown
    exact ⟨⟨last, lists⟩, fun total hpos full => lists.whole hpos full⟩
  · intro unreached
    obtain ⟨turns, hlog, -, rfl, hresult⟩ := (converses_records_unreached unreached).turns yields
    exact ⟨hresult, hlog⟩

/-- Two pages that each tell that there are two are asked for one after the other, and no more. -/
theorem lists_both_pages :
    Reaches Pair.reader ("/zones/" ++ "z" ++ "/dns_records") ∧ ∃ result log,
      (records Pair.reader "z").run.run Pair.shown.answer [] = (result, log) ∧ log.length = 2 ∧
        result.toOption = some [Pair.first false, Pair.second false] := by
  have reaches : Reaches Pair.reader ("/zones/" ++ "z" ++ "/dns_records") := Pair.reaches_records
  obtain ⟨result, log, hrun, listed, -⟩ := lists_all_pages Pair.reader "z" Pair.shown
  obtain ⟨hlength, hresult⟩ := (listed reaches).2 2 (by decide) fun page hpos hle =>
    ⟨_, List.cons_ne_nil _ _, Pair.page?_shown page⟩
  refine ⟨reaches, result, log, hrun, hlength, ?_⟩
  rw [hresult]
  simp [List.range'_succ, Pages.managed, Pair.page?_shown, Pair.first, Pair.second]

end Client

end DynamicDns.Cloudflare
