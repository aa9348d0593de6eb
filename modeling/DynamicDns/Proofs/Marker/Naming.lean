import DynamicDns.Proofs.World.Cluster

/-!
# Names that the API server takes

The API server holds names to grammars. An object is called by a subdomain, a namespace is a label, and
an annotation stands under a subdomain, a slash and a segment. The key of a marker makes one segment of
the name and the namespace of its notifier. All its characters are fine, but a segment has at most 63 of
them and a name alone may have 253, so the key is an annotation key only if the two are short enough
(`isAnnotationKey_iff`).
-/

namespace DynamicDns

namespace Naming

/-- A text of certain characters that begins and ends with one of a narrower class. -/
structure Framed (edge body : Char → Bool) (text : List Char) : Prop where
  chars : ∀ c ∈ text, body c = true
  first : text.head?.any edge = true
  last : text.getLast?.any edge = true

def isLowerAlphanum (c : Char) : Bool := c.isLower || c.isDigit

def isLabelChar (c : Char) : Bool := isLowerAlphanum c || c == '-'

def isSegmentChar (c : Char) : Bool := c.isAlphanum || c == '-' || c == '_' || c == '.'

structure IsLabel (text : String) : Prop where
  framed : Framed isLowerAlphanum isLabelChar text.toList
  length_le : text.length ≤ 63

/-- What an object may be called. The labels of a name are not held to a length of their own. -/
structure IsSubdomain (text : String) : Prop where
  labels : ∀ label ∈ text.toList.splitOn '.', Framed isLowerAlphanum isLabelChar label
  length_le : text.length ≤ 253

/-- What stands behind the slash of an annotation key. -/
structure IsSegment (text : String) : Prop where
  framed : Framed Char.isAlphanum isSegmentChar text.toList
  length_le : text.length ≤ 63

def IsAnnotationKey (key : String) : Prop :=
  ∃ group segment, key = group ++ "/" ++ segment ∧ IsSubdomain group ∧ IsSegment segment

variable {edge edge' body body' : Char → Bool} {front back text : List Char}

instance : Decidable (Framed edge body text) :=
  decidable_of_iff
    (text.all body = true ∧ text.head?.any edge = true ∧ text.getLast?.any edge = true)
    ⟨fun h => ⟨List.all_eq_true.1 h.1, h.2.1, h.2.2⟩,
      fun h => ⟨List.all_eq_true.2 h.chars, h.first, h.last⟩⟩

instance (text : String) : Decidable (IsLabel text) :=
  decidable_of_iff (Framed isLowerAlphanum isLabelChar text.toList ∧ text.length ≤ 63)
    ⟨fun h => ⟨h.1, h.2⟩, fun h => ⟨h.framed, h.length_le⟩⟩

instance (text : String) : Decidable (IsSubdomain text) :=
  decidable_of_iff ((∀ label ∈ text.toList.splitOn '.', Framed isLowerAlphanum isLabelChar label) ∧
      text.length ≤ 253)
    ⟨fun h => ⟨h.1, h.2⟩, fun h => ⟨h.labels, h.length_le⟩⟩

instance (text : String) : Decidable (IsSegment text) :=
  decidable_of_iff (Framed Char.isAlphanum isSegmentChar text.toList ∧ text.length ≤ 63)
    ⟨fun h => ⟨h.1, h.2⟩, fun h => ⟨h.framed, h.length_le⟩⟩

/-! ### Framed texts -/

namespace Framed

theorem mono (framed : Framed edge body text) (edges : ∀ c, edge c = true → edge' c = true)
    (bodies : ∀ c, body c = true → body' c = true) : Framed edge' body' text := by
  have widen (c? : Option Char) (h : c?.any edge = true) : c?.any edge' = true := by
    cases c? with
    | none => cases h
    | some c => exact edges c h
  exact ⟨fun c hc => bodies c (framed.chars c hc), widen _ framed.first, widen _ framed.last⟩

theorem not_mem (framed : Framed edge body text) {c : Char} (h : body c = false) : c ∉ text := by
  intro hmem
  rw [framed.chars c hmem] at h
  cases h

theorem join (hfront : Framed edge body front) (hback : Framed edge body back) {c : Char}
    (hc : body c = true) : Framed edge body (front ++ c :: back) where
  chars d hd := by
    rcases List.mem_append.1 hd with hd | hd
    · exact hfront.chars d hd
    · rcases List.mem_cons.1 hd with rfl | hd
      · exact hc
      · exact hback.chars d hd
  first := by
    have hfirst := hfront.first
    cases front with
    | nil => cases hfirst
    | cons d rest => exact hfirst
  last := by
    have hlast := hback.last
    cases hback' : back.getLast? with
    | none =>
      rw [hback'] at hlast
      cases hlast
    | some d =>
      rw [hback'] at hlast
      rw [List.getLast?_append, List.getLast?_cons, hback']
      exact hlast

theorem intercalate {texts : List (List Char)} (ne : texts ≠ [])
    (h : ∀ text ∈ texts, Framed edge body text) {c : Char} (hc : body c = true) :
    Framed edge body ([c].intercalate texts) := by
  induction texts with
  | nil => exact absurd rfl ne
  | cons text rest ih =>
    obtain ⟨htext, hrest⟩ := List.forall_mem_cons.1 h
    cases rest with
    | nil => rwa [List.intercalate_singleton]
    | cons next others =>
      rw [List.intercalate_cons_cons, List.append_assoc, List.singleton_append]
      exact htext.join (ih (List.cons_ne_nil _ _) hrest) hc

end Framed

/-! ### Names as parts of a segment -/

theorem isAlphanum_of_lower {c : Char} (h : isLowerAlphanum c = true) : c.isAlphanum = true := by
  rw [isLowerAlphanum, Bool.or_eq_true] at h
  change ((c.isUpper || c.isLower) || c.isDigit) = true
  rcases h with h | h <;> simp [h]

theorem isSegmentChar_of_label {c : Char} (h : isLabelChar c = true) : isSegmentChar c = true := by
  rw [isLabelChar, Bool.or_eq_true] at h
  rcases h with h | h
  · simp [isSegmentChar, isAlphanum_of_lower h]
  · simp [isSegmentChar, h]

theorem IsSubdomain.framed {text : String} (subdomain : IsSubdomain text) :
    Framed isLowerAlphanum (fun c => isLabelChar c || c == '.') text.toList := by
  have hsplit : ['.'].intercalate (text.toList.splitOn '.') = text.toList := List.intercalate_splitOn '.'
  rw [← hsplit]
  refine Framed.intercalate (List.splitOn_ne_nil _ _) (fun label hlabel => ?_) rfl
  exact (subdomain.labels label hlabel).mono (fun _ h => h) fun _ h => Bool.or_eq_true_iff.2 (.inl h)

theorem IsSubdomain.slash_notMem {text : String} (subdomain : IsSubdomain text) : '/' ∉ text.toList :=
  subdomain.framed.not_mem rfl

theorem IsSegment.slash_notMem {text : String} (segment : IsSegment text) : '/' ∉ text.toList :=
  segment.framed.not_mem rfl

/-- A key has one slash, which divides it. -/
theorem isAnnotationKey_iff_splitOn {key : String} :
    IsAnnotationKey key ↔ ∃ group segment, key.toList.splitOn '/' = [group, segment] ∧
      IsSubdomain (String.ofList group) ∧ IsSegment (String.ofList segment) := by
  constructor
  · rintro ⟨group, segment, rfl, hgroup, hsegment⟩
    refine ⟨group.toList, segment.toList, ?_, by simpa using hgroup, by simpa using hsegment⟩
    rw [String.toList_append, String.toList_append, List.append_assoc]
    exact (List.splitOn_append_cons_self_of_not_mem hgroup.slash_notMem _).trans
      (congrArg _ (List.splitOn_eq_singleton hsegment.slash_notMem))
  · rintro ⟨group, segment, hsplit, hgroup, hsegment⟩
    have hkey : ['/'].intercalate (key.toList.splitOn '/') = key.toList := List.intercalate_splitOn '/'
    refine ⟨String.ofList group, String.ofList segment, String.toList_inj.1 ?_, hgroup, hsegment⟩
    rw [← hkey, hsplit, List.intercalate_cons_cons, List.intercalate_singleton]
    simp

instance (key : String) : Decidable (IsAnnotationKey key) :=
  match hsplit : key.toList.splitOn '/' with
  | [group, segment] =>
    decidable_of_iff (IsSubdomain (String.ofList group) ∧ IsSegment (String.ofList segment)) <| by
      simp [isAnnotationKey_iff_splitOn, hsplit]
  | [] | [_] | _ :: _ :: _ :: _ => isFalse (by simp [isAnnotationKey_iff_splitOn, hsplit])

end Naming

open Naming

structure ObjectKey.Legal (key : ObjectKey) : Prop where
  name : IsSubdomain key.name
  ns : IsLabel key.ns

namespace ObjectKey.Legal

variable {key : ObjectKey}

/-- What stands behind the slash in the key of a marker has the form of a segment. -/
theorem framed (legal : key.Legal) :
    Framed Char.isAlphanum isSegmentChar (key.name.toList ++ '_' :: key.ns.toList) := by
  have hname : Framed Char.isAlphanum isSegmentChar key.name.toList := by
    refine legal.name.framed.mono (fun _ => isAlphanum_of_lower) fun c h => ?_
    rcases Bool.or_eq_true_iff.1 h with h | h
    · exact isSegmentChar_of_label h
    · simp [isSegmentChar, h]
  have hns : Framed Char.isAlphanum isSegmentChar key.ns.toList :=
    legal.ns.framed.mono (fun _ => isAlphanum_of_lower) fun _ => isSegmentChar_of_label
  exact hname.join hns rfl

/-- The key of a marker is an annotation key if the name and the namespace fit into one segment. -/
theorem isAnnotationKey_iff (legal : key.Legal) :
    IsAnnotationKey key.marker.key ↔ key.name.length + key.ns.length ≤ 62 := by
  have hkey : key.marker.key.toList =
      apiGroup.toList ++ '/' :: (key.name.toList ++ '_' :: key.ns.toList) := by
    rw [Marker.toList_key, Marker.keyStem, String.toList_append, List.append_assoc]
    rfl
  have hlength : (key.name.toList ++ '_' :: key.ns.toList).length =
      key.name.length + key.ns.length + 1 := by
    rw [List.length_append, List.length_cons, String.length_toList, String.length_toList, Nat.add_assoc]
  constructor
  · rintro ⟨group, segment, hsplit, -, hsegment⟩
    have hlists := congrArg String.toList hsplit
    rw [hkey, String.toList_append, String.toList_append, List.append_assoc] at hlists
    have hgroup : '/' ∉ apiGroup.toList := by decide +kernel
    have hslash : '/' ∉ key.name.toList ++ '_' :: key.ns.toList := legal.framed.not_mem rfl
    obtain ⟨-, -, hrest⟩ := (List.append_cons_inj_of_notMem hgroup hslash).1 hlists
    have hle : segment.toList.length ≤ 63 := String.length_toList.trans_le hsegment.length_le
    change _ = segment.toList at hrest
    rw [← hrest, hlength] at hle
    omega
  · intro hfits
    refine ⟨apiGroup, key.name ++ "_" ++ key.ns, ?_, by decide +kernel, ?_, ?_⟩
    · apply String.toList_inj.1
      rw [hkey]
      simp
    · simpa using legal.framed
    · simp only [String.length_append]
      change key.name.length + 1 + key.ns.length ≤ 63
      omega

end ObjectKey.Legal

end DynamicDns
