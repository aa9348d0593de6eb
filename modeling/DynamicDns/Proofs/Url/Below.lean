import DynamicDns.Http

/-!
# URLs below a URL

A text that is a URL of the web stays one if a slash and anything else are put behind it, whatever
that is: the scheme and the host are in front of the slash already, and nothing can be wrong with a
path, a query or a fragment.
-/

namespace DynamicDns.Url

section

variable {α : Type} {p : α → Bool} {c : α}

theorem takeWhile_append_stop (h : p c = false) (front back : List α) :
    (front ++ c :: back).takeWhile p = front.takeWhile p := by
  induction front with
  | nil => rw [List.nil_append, List.takeWhile_cons_of_neg (by simp [h]), List.takeWhile_nil]
  | cons a front ih =>
    rw [List.cons_append, List.takeWhile_cons, List.takeWhile_cons, ih]

theorem dropWhile_append_stop (h : p c = false) (front back : List α) :
    (front ++ c :: back).dropWhile p = front.dropWhile p ++ c :: back := by
  induction front with
  | nil => rw [List.nil_append, List.dropWhile_cons_of_neg (by simp [h]), List.dropWhile_nil,
      List.nil_append]
  | cons a front ih =>
    rw [List.cons_append, List.dropWhile_cons, List.dropWhile_cons, ih]
    split <;> rfl

theorem rdropWhile_append_stop (h : p c = false) (front back : List α) :
    ((front ++ c :: back).reverse.dropWhile p).reverse =
      front ++ c :: (back.reverse.dropWhile p).reverse := by
  rw [List.reverse_append, List.reverse_cons, List.append_assoc, List.singleton_append,
    dropWhile_append_stop h, List.reverse_append, List.reverse_cons, List.reverse_reverse,
    List.append_assoc, List.singleton_append]

/-- What stands before the first of some characters ends there already, or goes on. -/
theorem takeWhile_append_cons_cases (h : p c = true) (front back : List α) :
    (front ++ c :: back).takeWhile p = front.takeWhile p ∨
      ∃ rest, (front ++ c :: back).takeWhile p = front.takeWhile p ++ c :: rest := by
  rw [List.takeWhile_append]
  split
  · rename_i hlength
    have hall : front.takeWhile p = front :=
      (List.takeWhile_prefix p).eq_of_length hlength
    exact .inr ⟨back.takeWhile p, by rw [hall, List.takeWhile_cons_of_pos h]⟩
  · exact .inl rfl

end

/-- Nothing is trimmed off a text at the end at which a slash follows. -/
theorem tidy_append {text : String} {front : List Char} {last : Char}
    (hends : text.toList = front ++ [last]) (hlast : 32 < last.toNat) (more : String) :
    ∃ rest, tidy (text ++ ("/" ++ more)) = tidy text ++ '/' :: rest := by
  have htext : (text ++ ("/" ++ more)).toList = front ++ last :: ('/' :: more.toList) := by
    rw [String.toList_append, String.toList_append, hends, List.append_assoc]
    rfl
  simp only [tidy, htext, hends]
  generalize hedge : (fun c : Char => decide (c.toNat ≤ 32)) = edge
  have hstop : edge last = false := by
    rw [← hedge]
    exact decide_eq_false (by omega)
  have hslash : edge '/' = false := by
    rw [← hedge]
    decide
  rw [dropWhile_append_stop hstop, dropWhile_append_stop hstop, List.append_cons,
    rdropWhile_append_stop hslash, rdropWhile_append_stop hstop, List.reverse_nil,
    List.dropWhile_nil, List.reverse_nil]
  refine ⟨((more.toList.reverse.dropWhile edge).reverse).filter fun c =>
    c ≠ '\t' ∧ c ≠ '\n' ∧ c ≠ '\r', ?_⟩
  rw [List.filter_append, List.filter_cons_of_pos (by decide)]

theorem scheme?_append (text rest : List Char) :
    scheme? (text ++ '/' :: rest) =
      (scheme? text).map fun (scheme, behind) => (scheme, behind ++ '/' :: rest) := by
  have hslash : isSchemeChar '/' = false := by decide
  cases text with
  | nil => rfl
  | cons c front =>
    simp only [scheme?, List.cons_append]
    split
    · rw [← List.cons_append, dropWhile_append_stop hslash, takeWhile_append_stop hslash]
      cases (c :: front).dropWhile isSchemeChar with
      | nil => rfl
      | cons d behind =>
        by_cases hcolon : d = ':'
        · subst hcolon
          rfl
        · simp [hcolon]
    · rfl

theorem cut_fst (c : Char) (text : List Char) : (cut c text).1 = text.takeWhile (· ≠ c) := by
  rw [cut]
  split
  · rename_i h
    exact ((List.takeWhile_append_dropWhile (p := (· ≠ c)) (l := text)).symm.trans
      (by rw [h, List.append_nil]))
  · rfl

/-- Where the scheme is one of the web, what comes behind the authority does not matter. -/
theorem readAuthority_more {scheme : String} (hweb : schemeClass scheme = .web) (text : List Char)
    (more more' : Bool) : readAuthority scheme text more = readAuthority scheme text more' := by
  simp only [readAuthority, hweb, true_or, if_true]

theorem schemeClass_of_isHttp {url : Url} (h : url.isHttp = true) :
    schemeClass url.scheme = .web := by
  rw [isHttp, Bool.or_eq_true, beq_iff_eq, beq_iff_eq] at h
  rcases h with h | h <;> rw [h] <;> decide

/-- A URL of the web names a host. -/
theorem readAuthority_nil {scheme : String} (hweb : schemeClass scheme = .web) (more : Bool) :
    readAuthority scheme [] more = .error .emptyHost := by
  simp only [readAuthority, hweb, splitUser, splitPort, List.reverse_nil, List.dropWhile_nil,
    true_or, if_true]
  rfl

/-- The authority stays what it was if a slash and more follow. -/
theorem hierarchy_append {scheme : String} (hweb : schemeClass scheme = .web)
    {text text' : List Char} (htext : text' = text ∨ ∃ rest, text' = text ++ '/' :: rest)
    {more : Bool} {found : Option Authority × String} (h : hierarchy scheme text more = .ok found)
    (more' : Bool) : ∃ found', hierarchy scheme text' more' = .ok found' := by
  have hslash : isSeparator .web '/' = true := by decide
  have hfront : (text'.dropWhile (isSeparator .web)).takeWhile (fun c => !isSeparator .web c) =
      (text.dropWhile (isSeparator .web)).takeWhile (fun c => !isSeparator .web c) := by
    rcases htext with rfl | ⟨rest, rfl⟩
    · rfl
    · cases hdrop : text.dropWhile (isSeparator .web) with
      | nil =>
        simp only [hierarchy, hweb, hdrop, List.takeWhile_nil, readAuthority_nil hweb] at h
        cases h
      | cons c behind =>
        rw [List.dropWhile_append, hdrop]
        exact takeWhile_append_stop (by simp [hslash]) (c :: behind) rest
  simp only [hierarchy, hweb] at h ⊢
  rw [hfront]
  cases hread : readAuthority scheme
      ((text.dropWhile (isSeparator .web)).takeWhile fun c => !isSeparator .web c) more with
  | error fault =>
    rw [readAuthority_more hweb _ _ more, hread] at h
    cases h
  | ok authority =>
    rw [readAuthority_more hweb _ _ more, hread]
    exact ⟨_, rfl⟩

/-- Below a URL of the web everything is a URL, and has the same scheme. -/
theorem parse_append {text : String} {front : List Char} {last : Char}
    (hends : text.toList = front ++ [last]) (hlast : 32 < last.toNat) {url : Url}
    (h : parse text = .ok url) (hhttp : url.isHttp = true) (more : String) :
    ∃ url', parse (text ++ ("/" ++ more)) = .ok url' ∧ url'.scheme = url.scheme := by
  obtain ⟨rest, htidy⟩ := tidy_append hends hlast more
  rw [parse] at h ⊢
  rw [htidy, scheme?_append]
  cases hscheme : scheme? (tidy text) with
  | none =>
    rw [hscheme] at h
    cases h
  | some found =>
    obtain ⟨scheme, behind⟩ := found
    rw [hscheme] at h
    have hsuffix : ((cut '?' (cut '#' (behind ++ '/' :: rest)).1).1 =
          (cut '?' (cut '#' behind).1).1) ∨
        ∃ path, (cut '?' (cut '#' (behind ++ '/' :: rest)).1).1 =
          (cut '?' (cut '#' behind).1).1 ++ '/' :: path := by
      simp only [cut_fst]
      rcases takeWhile_append_cons_cases (p := (· ≠ '#')) (c := '/') (by decide) behind rest with
        hcut | ⟨rest', hcut⟩
      · exact .inl (by rw [hcut])
      · rw [hcut]
        exact takeWhile_append_cons_cases (by decide) _ rest'
    dsimp only [Option.map_some] at h ⊢
    cases hfound : hierarchy scheme (cut '?' (cut '#' behind).1).1
        ((cut '#' behind).2.isSome || (cut '?' (cut '#' behind).1).2.isSome) with
    | error fault =>
      rw [hfound] at h
      cases h
    | ok found =>
      rw [hfound] at h
      cases h
      obtain ⟨found', hfound'⟩ := hierarchy_append (schemeClass_of_isHttp hhttp) hsuffix hfound _
      rw [hfound']
      exact ⟨_, rfl, rfl⟩

end DynamicDns.Url
