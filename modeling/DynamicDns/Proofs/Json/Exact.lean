import DynamicDns.Json.Codec
import DynamicDns.Proofs.Json.Members

/-!
# Values without floats

Two floats can denote the same number and yet differ, as the two zeros do, and an object or a list
that holds floats inherits this. A value without floats is exact: it is the same as another value
only if the two are equal.
-/

namespace DynamicDns.Json

mutual

/-- No float occurs in a value. -/
def Exact : Json → Prop
  | .float _ => False
  | .arr items => ExactItems items
  | .obj members => ExactMembers members
  | .null | .bool _ | .int _ | .str _ => True

def ExactItems : List Json → Prop
  | [] => True
  | item :: rest => item.Exact ∧ ExactItems rest

def ExactMembers : List (String × Json) → Prop
  | [] => True
  | (_, value) :: rest => value.Exact ∧ ExactMembers rest

end

mutual

theorem eq_of_same : ∀ {a b : Json}, a.Exact → same a b = true → a = b
  | .null, b, _, h => by cases b <;> simp_all [same]
  | .bool _, b, _, h => by cases b <;> simp_all [same]
  | .int _, b, _, h => by cases b <;> simp_all [same]
  | .float _, _, exact, _ => by simp [Exact] at exact
  | .str _, b, _, h => by cases b <;> simp_all [same]
  | .arr items, b, exact, h => by
    cases b with
    | arr others =>
      have hitems : items = others :=
        eq_of_sameItems (by simpa [Exact] using exact) (by simpa [same] using h)
      rw [hitems]
    | _ => simp [same] at h
  | .obj members, b, exact, h => by
    cases b with
    | obj others =>
      have hmembers : members = others :=
        eq_of_sameMembers (by simpa [Exact] using exact) (by simpa [same] using h)
      rw [hmembers]
    | _ => simp [same] at h

theorem eq_of_sameItems : ∀ {as bs : List Json}, ExactItems as → sameItems as bs = true → as = bs
  | [], bs, _, h => by cases bs <;> simp_all [sameItems]
  | a :: as, bs, exact, h => by
    cases bs with
    | nil => simp [sameItems] at h
    | cons b bs =>
      have hsame : same a b = true ∧ sameItems as bs = true := by simpa [sameItems] using h
      have hexact : a.Exact ∧ ExactItems as := by simpa [ExactItems] using exact
      rw [eq_of_same hexact.1 hsame.1, eq_of_sameItems hexact.2 hsame.2]

theorem eq_of_sameMembers : ∀ {as bs : List (String × Json)},
    ExactMembers as → sameMembers as bs = true → as = bs
  | [], bs, _, h => by cases bs <;> simp_all [sameMembers]
  | (k, a) :: as, bs, exact, h => by
    cases bs with
    | nil => simp [sameMembers] at h
    | cons entry bs =>
      obtain ⟨l, b⟩ := entry
      have hsame : (k = l ∧ same a b = true) ∧ sameMembers as bs = true := by
        simpa [sameMembers] using h
      have hexact : a.Exact ∧ ExactMembers as := by simpa [ExactMembers] using exact
      rw [hsame.1.1, eq_of_same hexact.1 hsame.1.2, eq_of_sameMembers hexact.2 hsame.2]

end

mutual

theorem same_self : ∀ a : Json, same a a = true
  | .null => rfl
  | .bool _ | .int _ | .str _ => by simp [same]
  | .float _ => by simp [same, sameNumber]
  | .arr items => by simp [same, sameItems_self items]
  | .obj members => by simp [same, sameMembers_self members]

theorem sameItems_self : ∀ items : List Json, sameItems items items = true
  | [] => rfl
  | item :: rest => by simp [sameItems, same_self item, sameItems_self rest]

theorem sameMembers_self : ∀ members : List (String × Json), sameMembers members members = true
  | [] => rfl
  | (_, value) :: rest => by simp [sameMembers, same_self value, sameMembers_self rest]

end

/-! ### Exact values out of exact values -/

theorem exactItems_iff {items : List Json} : ExactItems items ↔ ∀ item ∈ items, item.Exact := by
  induction items with
  | nil => simp [ExactItems]
  | cons item rest ih => simp [ExactItems, ih]

theorem exactMembers_iff {members : List (String × Json)} :
    ExactMembers members ↔ ∀ entry ∈ members, entry.2.Exact := by
  induction members with
  | nil => simp [ExactMembers]
  | cons entry rest ih => simp [ExactMembers, ih]

theorem exact_ofItems {α : Type} [Codec α] {items : List α}
    (h : ∀ item ∈ items, (Codec.encode item).Exact) : (ofItems items).Exact := by
  simpa [ofItems, Exact, exactItems_iff] using h

theorem Members.mem_ofList {members : List (String × Json)} {entry : String × Json}
    (h : entry ∈ ofList members) : entry ∈ members := by
  suffices hstart : ∀ start : Members,
      entry ∈ members.foldl (fun sorted member => insert member.1 member.2 sorted) start →
        entry ∈ start ∨ entry ∈ members from
    (hstart [] h).resolve_left (by simp)
  clear h
  induction members with
  | nil => exact fun _ => .inl
  | cons head rest ih =>
    intro start h
    rcases ih _ h with h | h
    · rcases mem_insert h with rfl | h
      · exact .inr List.mem_cons_self
      · exact .inl h
    · exact .inr (List.mem_cons_of_mem _ h)

end DynamicDns.Json
