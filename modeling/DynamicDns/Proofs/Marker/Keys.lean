import DynamicDns.Marker
import DynamicDns.Proofs.Resource.Written
import Mathlib.Data.List.TakeWhile

/-!
# Markers as annotations

A marker whose parts are not empty, and whose namespace holds no underscore, is read back from its
key, and no other key reads as it. So what annotations record of such a marker is what they hold
under its key.
-/

namespace DynamicDns

namespace Marker

/-- Both parts of a marker are there, and the namespace cannot be mistaken for part of the name. -/
structure Proper (marker : Marker) : Prop where
  name_ne : marker.name ≠ ""
  ns_ne : marker.ns ≠ ""
  ns_plain : '_' ∉ marker.ns.toList

/-- The name cannot be mistaken for more than a name either. -/
structure Plain (marker : Marker) : Prop extends Proper marker where
  name_plain : '_' ∉ marker.name.toList

/-! ### The last underscore -/

theorem splitLast_append (front : List Char) {back : List Char} (plain : '_' ∉ back) :
    splitLast (front ++ '_' :: back) = some (front, back) := by
  have hback : ∀ c ∈ back.reverse, (decide (c ≠ '_')) = true := by
    intro c hc
    exact decide_eq_true fun h => plain (h ▸ List.mem_reverse.1 hc)
  have hreverse : (front ++ '_' :: back).reverse = back.reverse ++ '_' :: front.reverse := by
    rw [List.reverse_append, List.reverse_cons, List.append_assoc, List.singleton_append]
  rw [splitLast, hreverse, List.dropWhile_append_of_pos hback, List.takeWhile_append_of_pos hback,
    List.dropWhile_cons_of_neg (by simp), List.takeWhile_cons_of_neg (by simp), List.append_nil,
    List.reverse_reverse]
  dsimp only
  rw [List.reverse_reverse]

theorem eq_of_splitLast {text front back : List Char} (h : splitLast text = some (front, back)) :
    text = front ++ '_' :: back := by
  have htext : text.reverse = text.reverse.takeWhile (· ≠ '_') ++ text.reverse.dropWhile (· ≠ '_') :=
    List.takeWhile_append_dropWhile.symm
  rw [splitLast] at h
  split at h
  · cases h
  · rename_i c rest hrest
    cases h
    have hc : c = '_' := by
      have := List.head?_dropWhile_not (· ≠ '_') text.reverse
      rw [hrest] at this
      simpa using this
    rw [hrest, hc] at htext
    calc
      text = text.reverse.reverse := text.reverse_reverse.symm
      _ = (text.reverse.takeWhile (· ≠ '_') ++ '_' :: rest).reverse := congrArg List.reverse htext
      _ = rest.reverse ++ '_' :: (text.reverse.takeWhile (· ≠ '_')).reverse := by
        rw [List.reverse_append, List.reverse_cons, List.append_assoc, List.singleton_append]

theorem plain_of_splitLast {text front back : List Char} (h : splitLast text = some (front, back)) :
    '_' ∉ back := by
  rw [splitLast] at h
  split at h
  · cases h
  · cases h
    rw [List.mem_reverse]
    exact fun hmem => by simpa using List.mem_takeWhile_imp hmem

/-! ### Keys -/

theorem toList_key (marker : Marker) :
    marker.key.toList = keyStem.toList ++ (marker.name.toList ++ '_' :: marker.ns.toList) := by
  simp only [key, String.toList_append, List.append_assoc]
  rfl

theorem ofKey?_key {marker : Marker} (proper : marker.Proper) : ofKey? marker.key = some marker := by
  have hprefix : keyStem.toList.isPrefixOf? marker.key.toList =
      some (marker.name.toList ++ '_' :: marker.ns.toList) := by
    rw [List.isPrefixOf?_eq_some_iff_append_eq, toList_key]
  have hname : ¬marker.name.toList.isEmpty = true := by simpa using proper.name_ne
  have hns : ¬marker.ns.toList.isEmpty = true := by simpa using proper.ns_ne
  simp only [ofKey?, hprefix, splitLast_append _ proper.ns_plain, Option.bind_eq_bind, Option.bind_some,
    String.ofList_toList]
  rw [if_neg (not_or.2 ⟨hname, hns⟩)]

theorem key_of_ofKey? {key : String} {marker : Marker} (h : ofKey? key = some marker) :
    marker.key = key := by
  obtain ⟨rest, hrest, h⟩ := Option.bind_eq_some_iff.1 h
  obtain ⟨⟨name, ns⟩, hsplit, h⟩ := Option.bind_eq_some_iff.1 h
  have hkey : keyStem.toList ++ rest = key.toList := List.isPrefixOf?_eq_some_iff_append_eq.1 hrest
  dsimp only at h
  split at h
  · cases h
  · cases h
    apply String.toList_inj.1
    rw [toList_key, String.toList_ofList, String.toList_ofList, ← eq_of_splitLast hsplit, hkey]

/-- A marker without underscores shares its key with no other. -/
theorem Plain.eq_of_key_eq {marker other : Marker} (plain : marker.Plain)
    (h : other.key = marker.key) : other = marker := by
  have hlists := congrArg String.toList h
  rw [toList_key, toList_key] at hlists
  have hrest := (List.append_cancel_left hlists).symm
  obtain ⟨hname, -, hns⟩ := (List.append_cons_inj_of_notMem plain.name_plain plain.ns_plain).1 hrest
  obtain ⟨name, ns⟩ := marker
  obtain ⟨name', ns'⟩ := other
  rw [Marker.mk.injEq]
  exact ⟨(String.toList_inj.1 hname).symm, (String.toList_inj.1 hns).symm⟩

/-! ### What annotations record -/

theorem lookup_record (marker other : Marker) (ip : String) (found : List (Marker × String)) :
    (record marker ip found).lookup other =
      if other = marker then some ip else found.lookup other := by
  induction found with
  | nil =>
    rw [record, List.lookup_cons]
    by_cases h : other = marker
    · rw [beq_iff_eq.2 h, if_pos h]
    · rw [beq_false_of_ne h, if_neg h]
  | cons head rest ih =>
    obtain ⟨m, text⟩ := head
    rw [record]
    split
    · subst m
      rw [List.lookup_cons, List.lookup_cons]
      by_cases h : other = marker
      · rw [beq_iff_eq.2 h, if_pos h]
      · rw [beq_false_of_ne h, if_neg h]
    · rename_i hne
      split
      · rw [List.lookup_cons]
        by_cases h : other = marker
        · rw [beq_iff_eq.2 h, if_pos h]
        · rw [beq_false_of_ne h, if_neg h]
      · rw [List.lookup_cons, List.lookup_cons, ih]
        by_cases h : other = m
        · rw [beq_iff_eq.2 h]
          exact (if_neg fun h' => hne (h'.symm.trans h)).symm
        · rw [beq_false_of_ne h]

theorem lookup_recorded {marker : Marker} (proper : marker.Proper)
    (annotations : List (String × String)) :
    (recorded annotations).lookup marker = annotations.reverse.lookup marker.key := by
  rw [recorded, ← List.foldr_reverse]
  induction annotations.reverse with
  | nil => rfl
  | cons head rest ih =>
    obtain ⟨key, text⟩ := head
    rw [List.foldr_cons, List.lookup_cons]
    dsimp only
    cases hkey : ofKey? key with
    | none =>
      have hne : marker.key ≠ key := by
        rintro rfl
        rw [ofKey?_key proper] at hkey
        cases hkey
      rw [beq_false_of_ne hne]
      exact ih
    | some other =>
      dsimp only
      rw [lookup_record, ih]
      by_cases h : marker = other
      · rw [if_pos h, h, beq_iff_eq.2 (key_of_ofKey? hkey)]
      · have hne : marker.key ≠ key := by
          rintro rfl
          rw [ofKey?_key proper] at hkey
          exact h (Option.some.inj hkey)
        rw [if_neg h, beq_false_of_ne hne]

end Marker

/-- What was last announced is what stands under the key of the marker. -/
theorem Provider.announcedTo_eq {provider : Provider} (ordered : provider.metadata.Ordered)
    {marker : Marker} (proper : marker.Proper) :
    provider.announcedTo marker = provider.metadata.annotationList.lookup marker.key := by
  have hreverse := Json.Members.Sorted.get?_reverse ordered marker.key
  rw [Json.textMembers, ← List.map_reverse] at hreverse
  have hlookup := (Json.get?_textMembers _ _).symm.trans (hreverse.trans (Json.get?_textMembers _ _))
  rw [announcedTo, announced, Marker.lookup_recorded proper]
  exact Option.map_injective (fun _ _ h => Json.str.inj h) hlookup

/-- A text under the key of a marker is the address that was announced to it; others are not touched. -/
theorem Provider.announcedTo_annotated {provider marked : Provider} {marker other : Marker}
    (ordered : provider.metadata.Ordered) (proper : other.Proper) {ip : String}
    (hmarked : marked.metadata = provider.metadata.annotated marker.key ip) :
    marked.announcedTo other =
      if marker.key = other.key then some ip else provider.announcedTo other := by
  have ordered' : marked.metadata.Ordered := hmarked ▸ ordered.annotated marker.key ip
  rw [announcedTo_eq ordered' proper, announcedTo_eq ordered proper, hmarked,
    Metadata.lookup_annotated]

end DynamicDns
