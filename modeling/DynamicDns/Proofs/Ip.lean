import DynamicDns.Ip
import Mathlib.Algebra.GroupWithZero.Nat
import Mathlib.Data.List.Basic

/-!
# Addresses and their texts

An address can be written in many ways, but it has one standard text, and that text is read as the
address again (`parse?_text`). A number is read up to the first character that is no digit, so what is
left to see is that no group is mistaken for an octet, that groups are read as far as they go, and that
the groups that `::` leaves out are all zero.
-/

namespace DynamicDns.IpAddress

/-! ### Numbers -/

def digit? (base : Nat) (c : Char) : Option Nat := (Percent.hexValue? c).filter (· < base)

def Ends (base : Nat) (rest : List Char) : Prop := ∀ c ∈ rest.head?, digit? base c = none

def Divided (rest : List Char) : Prop := ∀ c ∈ rest.head?, c = ':'

variable {base n : Nat} {rest : List Char}

@[simp] theorem ends_nil (base : Nat) : Ends base [] := by simp [Ends]

@[simp] theorem ends_dot (base : Nat) (rest : List Char) : Ends base ('.' :: rest) := by
  intro c hc
  obtain rfl := Option.some.inj hc
  rfl

@[simp] theorem divided_nil : Divided [] := by simp [Divided]

@[simp] theorem divided_colon (rest : List Char) : Divided (':' :: rest) := by simp [Divided]

theorem Divided.ends (divided : Divided rest) (base : Nat) : Ends base rest := by
  intro c hc
  rw [divided c hc]
  rfl

theorem digit?_digitChar {d : Nat} (hbase : base ≤ 16) (hd : d < base) :
    digit? base d.digitChar = some d := by
  have hvalues : ∀ d : Fin 16, Percent.hexValue? (Nat.digitChar d) = some d.val := by decide
  rw [digit?, hvalues ⟨d, Nat.lt_of_lt_of_le hd hbase⟩]
  simp [Option.filter, hd]

theorem isSome_digit?_of_mem (hlow : 1 < base) (hbase : base ≤ 16) {c : Char}
    (h : c ∈ Nat.toDigits base n) : (digit? base c).isSome := by
  induction n using Nat.strongRecOn with
  | _ n ih =>
    by_cases hn : n < base
    · rw [Nat.toDigits_of_lt_base hn, List.mem_singleton] at h
      rw [h, digit?_digitChar hbase hn]
      rfl
    · have hle : base ≤ n := Nat.le_of_not_lt hn
      rw [Nat.toDigits_of_base_le hlow hle, List.mem_append, List.mem_singleton] at h
      rcases h with h | h
      · exact ih (n / base) (Nat.div_lt_self (by omega) hlow) h
      · rw [h, digit?_digitChar hbase (Nat.mod_lt n (by omega))]
        rfl

@[simp] theorem digit?_dot (base : Nat) : digit? base '.' = none := rfl

@[simp] theorem digit?_colon (base : Nat) : digit? base ':' = none := rfl

theorem foldl_toDigits (hlow : 1 < base) (hbase : base ≤ 16) (n : Nat) :
    (Nat.toDigits base n).foldl (fun n c => n * base + (digit? base c).getD 0) 0 = n := by
  induction n using Nat.strongRecOn with
  | _ n ih =>
    by_cases hn : n < base
    · rw [Nat.toDigits_of_lt_base hn]
      simp [digit?_digitChar hbase hn]
    · have hle : base ≤ n := Nat.le_of_not_lt hn
      rw [Nat.toDigits_of_base_le hlow hle, List.foldl_append,
        ih (n / base) (Nat.div_lt_self (by omega) hlow)]
      simp only [List.foldl_cons, List.foldl_nil,
        digit?_digitChar hbase (Nat.mod_lt n (by omega)), Option.getD_some]
      exact Nat.div_add_mod' n base

theorem number?_eq (base limit : Nat) (text : List Char) :
    number? base limit text =
      let digits := text.takeWhile fun c => (digit? base c).isSome
      if digits.length = 0 ∨ limit < digits.length then none
      else
        some (digits.foldl (fun n c => n * base + (digit? base c).getD 0) 0, digits.length,
          text.drop digits.length) := rfl

theorem takeWhile_of_ends (ends : Ends base rest) :
    rest.takeWhile (fun c => (digit? base c).isSome) = [] := by
  cases rest with
  | nil => rfl
  | cons c rest => exact List.takeWhile_cons_of_neg (by simp [ends c rfl])

theorem number?_toDigits {limit : Nat} (hlow : 1 < base) (hbase : base ≤ 16) (hlimit : 0 < limit)
    (hn : n < base ^ limit) (ends : Ends base rest) :
    number? base limit (Nat.toDigits base n ++ rest) =
      some (n, (Nat.toDigits base n).length, rest) := by
  have htake : (Nat.toDigits base n ++ rest).takeWhile (fun c => (digit? base c).isSome) =
      Nat.toDigits base n := by
    rw [List.takeWhile_append_of_pos fun c hc => isSome_digit?_of_mem hlow hbase hc,
      takeWhile_of_ends ends, List.append_nil]
  have hlength := (Nat.length_toDigits_le_iff hlow hlimit).2 hn
  have hpos : 0 < (Nat.toDigits base n).length := Nat.length_toDigits_pos
  simp only [number?_eq, htake]
  rw [if_neg (by omega), foldl_toDigits hlow hbase, List.drop_left]

/-- Nothing that goes on without a digit is a number. -/
theorem number?_of_ends {limit : Nat} (ends : Ends base rest) : number? base limit rest = none := by
  simp only [number?_eq, takeWhile_of_ends ends]
  exact if_pos (.inl rfl)

theorem number?_rest {limit value length : Nat} {text rest : List Char}
    (h : number? base limit text = some (value, length, rest)) :
    rest = text.dropWhile fun c => (digit? base c).isSome := by
  simp only [number?_eq] at h
  split at h
  · cases h
  · obtain ⟨-, h⟩ := Prod.mk.inj (Option.some.inj h)
    obtain ⟨-, rfl⟩ := Prod.mk.inj h
    exact (congrArg (List.drop _) List.takeWhile_append_dropWhile.symm).trans List.drop_left

/-! ### Octets -/

def decimal (octet : UInt8) : List Char := Nat.toDigits 10 octet.toNat

theorem octet?_decimal (octet : UInt8) (ends : Ends 10 rest) :
    octet? (decimal octet ++ rest) = some (octet, rest) := by
  have hlt : octet.toNat < 256 := octet.toNat_lt
  have hnumber : number? 10 3 (decimal octet ++ rest) =
      some (octet.toNat, (decimal octet).length, rest) :=
    number?_toDigits (by decide) (by decide) (by decide) (Nat.lt_of_lt_of_le hlt (by decide)) ends
  have hzero : ∀ n : Fin 256, 1 < (Nat.toDigits 10 n).length →
      (Nat.toDigits 10 n).head? ≠ some '0' := by decide +kernel
  have hfirst : (decimal octet ++ rest).head? = (decimal octet).head? :=
    List.head?_append_of_ne_nil _ Nat.toDigits_ne_nil
  have hvalid : ¬(255 < octet.toNat ∨ 1 < (decimal octet).length ∧
      (decimal octet ++ rest).head? = some '0') := by
    rintro (hlarge | ⟨hlong, hleading⟩)
    · omega
    · exact hzero ⟨octet.toNat, hlt⟩ hlong (hfirst.symm.trans hleading)
  simp only [octet?, hnumber, Option.bind_eq_bind, Option.bind_some, if_neg hvalid]
  exact congrArg (fun octet => some (octet, rest)) UInt8.ofNat_toNat

theorem toList_dotted (a b c d : UInt8) :
    (dotted a b c d).toList =
      decimal a ++ '.' :: (decimal b ++ '.' :: (decimal c ++ '.' :: decimal d)) := by
  rw [dotted, String.toList_intercalate]
  simp [List.intercalate, decimal]

theorem octets?_dotted (a b c d : UInt8) :
    octets? (dotted a b c d).toList = some ((a, b, c, d), []) := by
  have hlast : octet? (decimal d) = some (d, []) := by
    have hoctet := octet?_decimal d (ends_nil 10)
    rwa [List.append_nil] at hoctet
  rw [toList_dotted]
  simp [octets?, octet?_decimal, hlast, after?]

theorem octet?_rest {value : UInt8} {text rest : List Char} (h : octet? text = some (value, rest)) :
    rest = text.dropWhile fun c => (digit? 10 c).isSome := by
  simp only [octet?, Option.bind_eq_bind, Option.bind_eq_some_iff] at h
  obtain ⟨⟨number, length, rest'⟩, hnumber, h⟩ := h
  split at h
  · cases h
  · obtain ⟨-, rfl⟩ := Prod.mk.inj (Option.some.inj h)
    exact number?_rest hnumber

theorem head?_dropWhile_ne_dot {digits : List Char} (undotted : '.' ∉ digits)
    (divided : Divided rest) (base : Nat) :
    ((digits ++ rest).dropWhile fun c => (digit? base c).isSome).head? ≠ some '.' := by
  induction digits with
  | nil =>
    cases rest with
    | nil => simp
    | cons c rest =>
      obtain rfl := divided c rfl
      simp
  | cons c digits ih =>
    simp only [List.mem_cons, not_or] at undotted
    obtain ⟨hne, undotted⟩ := undotted
    cases hdigit : (digit? base c).isSome with
    | true => simpa [hdigit] using ih undotted
    | false => simpa [hdigit, eq_comm] using hne

/-- A group is not the first of four octets, as no dot follows its digits. -/
theorem octets?_of_undotted (digits : List Char) (undotted : '.' ∉ digits)
    (divided : Divided rest) : octets? (digits ++ rest) = none := by
  cases hoctet : octet? (digits ++ rest) with
  | none => simp [octets?, hoctet]
  | some read =>
    obtain ⟨value, after⟩ := read
    have hhead : after.head? ≠ some '.' := by
      rw [octet?_rest hoctet]
      exact head?_dropWhile_ne_dot undotted divided 10
    have hdot : after? '.' after = none := by
      cases after with
      | nil => rfl
      | cons c after => exact if_neg fun h => hhead (congrArg some h)
    simp [octets?, hoctet, hdot]

/-! ### Groups -/

def hexadecimal (group : UInt16) : List Char := Nat.toDigits 16 group.toNat

def follow (groups : List UInt16) : List Char := groups.flatMap fun group => ':' :: hexadecimal group

theorem toList_colons (group : UInt16) (groups : List UInt16) :
    (colons (group :: groups)).toList = hexadecimal group ++ follow groups := by
  rw [colons, String.toList_intercalate]
  induction groups generalizing group with
  | nil => simp [List.intercalate, follow, hexadecimal]
  | cons next rest ih =>
    have hrest := ih next
    simp [List.intercalate, follow, hexadecimal] at hrest ⊢
    rw [hrest]

theorem number?_hexadecimal (group : UInt16) (ends : Ends 16 rest) :
    number? 16 4 (hexadecimal group ++ rest) =
      some (group.toNat, (hexadecimal group).length, rest) :=
  number?_toDigits (by decide) (by decide) (by decide) group.toNat_lt ends

theorem dot_not_mem_hexadecimal (group : UInt16) : '.' ∉ hexadecimal group := by
  intro h
  have hdigit := isSome_digit?_of_mem (by decide) (by decide) h
  cases hdigit

/-- One group, behind a colon unless it is the first, and then those behind it. -/
theorem groups_cons (group : UInt16) (room : Nat) (divided : Divided rest)
    (first : Bool) :
    groups first (room + 1) ((if first then [] else [':']) ++ (hexadecimal group ++ rest)) =
      (group :: (groups false room rest).1, (groups false room rest).2) := by
  have hstart : (if first then some ((if first then [] else [':']) ++ (hexadecimal group ++ rest))
      else after? ':' ((if first then [] else [':']) ++ (hexadecimal group ++ rest))) =
      some (hexadecimal group ++ rest) := by
    cases first <;> rfl
  have hoctets : (if room = 0 then none else octets? (hexadecimal group ++ rest)) = none := by
    rw [octets?_of_undotted _ (dot_not_mem_hexadecimal group) divided, ite_self]
  rw [groups, hstart]
  simp only [hoctets, number?_hexadecimal group (divided.ends 16)]
  exact congrArg (fun group => (group :: _, _)) UInt16.ofNat_toNat

/-- Nothing that is no group, or the sign for groups that are left out. -/
def Halts (rest : List Char) : Prop := rest = [] ∨ ∃ text, rest = ':' :: ':' :: text

theorem Halts.divided (halts : Halts rest) : Divided rest := by
  rcases halts with rfl | ⟨text, rfl⟩
  · exact divided_nil
  · exact divided_colon _

theorem divided_follow (divided : Divided rest) (groups : List UInt16) :
    Divided (follow groups ++ rest) := by
  cases groups with
  | nil => exact divided
  | cons group groups => exact divided_colon _

theorem groups_of_halts (halts : Halts rest) (first : Bool) (room : Nat) :
    groups first room rest = ([], false, rest) := by
  cases room with
  | zero => rfl
  | succ room =>
    have none_here (start : List Char) (divided : Divided start) :
        (if room = 0 then none else octets? start) = none ∧ number? 16 4 start = none := by
      have hoctets : octets? start = none := octets?_of_undotted [] List.not_mem_nil divided
      rw [hoctets, ite_self]
      exact ⟨rfl, number?_of_ends (divided.ends 16)⟩
    rw [groups]
    rcases halts with rfl | ⟨text, rfl⟩
    · cases first with
      | false => rfl
      | true =>
        obtain ⟨hoctets, hnumber⟩ := none_here [] divided_nil
        simp only [if_true, hoctets, hnumber]
    · obtain ⟨hoctets, hnumber⟩ := none_here (':' :: ':' :: text) (divided_colon _)
      obtain ⟨hoctets', hnumber'⟩ := none_here (':' :: text) (divided_colon _)
      cases first with
      | false => simp [after?, hoctets', hnumber']
      | true => simp only [if_true, hoctets, hnumber]

theorem groups_follow (halts : Halts rest) {found : List UInt16} {room : Nat}
    (fits : found.length ≤ room) :
    groups false room (follow found ++ rest) = (found, false, rest) := by
  induction found generalizing room with
  | nil => exact groups_of_halts halts false room
  | cons group found ih =>
    obtain ⟨room, rfl⟩ : ∃ n, room = n + 1 := Nat.exists_eq_add_of_le' (Nat.le_trans (by simp) fits)
    have hfollow : follow (group :: found) ++ rest =
        [':'] ++ (hexadecimal group ++ (follow found ++ rest)) := by
      simp [follow]
    have hgroups := groups_cons group room (divided_follow halts.divided found) false
    rw [hfollow]
    rw [ih (Nat.le_of_succ_le_succ fits)] at hgroups
    exact hgroups

theorem groups_colons (halts : Halts rest) {found : List UInt16} {room : Nat}
    (fits : found.length ≤ room) :
    groups true room ((colons found).toList ++ rest) = (found, false, rest) := by
  cases found with
  | nil => exact groups_of_halts halts true room
  | cons group found =>
    obtain ⟨room, rfl⟩ : ∃ n, room = n + 1 := Nat.exists_eq_add_of_le' (Nat.le_trans (by simp) fits)
    have hgroups := groups_cons group room (divided_follow halts.divided found) true
    rw [groups_follow halts (Nat.le_of_succ_le_succ fits)] at hgroups
    rw [toList_colons, List.append_assoc]
    exact hgroups

/-! ### The groups that are left out -/

theorem zeros_le_length (found : List UInt16) : zeros found ≤ found.length :=
  (List.takeWhile_sublist _).length_le

/-- The groups of the run that is left out are all zero. -/
theorem longestRun_le (found : List UInt16) :
    (longestRun found).2 ≤ zeros (found.drop (longestRun found).1) := by
  have step (starts : List Nat) (best : Nat × Nat) (h : best.2 ≤ zeros (found.drop best.1)) :
      let run := starts.foldl (fun best start =>
        let length := zeros (found.drop start)
        if best.2 < length then (start, length) else best) best
      run.2 ≤ zeros (found.drop run.1) := by
    induction starts generalizing best with
    | nil => exact h
    | cons start starts ih =>
      rw [List.foldl_cons]
      refine ih _ ?_
      by_cases hlonger : best.2 < zeros (found.drop start)
      · exact Nat.le_of_eq (by rw [if_pos hlonger])
      · rw [if_neg hlonger]
        exact h
  exact step _ (0, 0) (Nat.zero_le _)

theorem eq_replicate_append_drop {found : List UInt16} {n : Nat} (h : n ≤ zeros found) :
    found = List.replicate n 0 ++ found.drop n := by
  induction found generalizing n with
  | nil =>
    obtain rfl := Nat.le_zero.1 h
    rfl
  | cons group found ih =>
    cases n with
    | zero => rfl
    | succ n =>
      by_cases hzero : group = 0
      · subst hzero
        have hfound : n ≤ zeros found := by simpa [zeros] using h
        rw [List.replicate_succ, List.drop_succ_cons, List.cons_append, ← ih hfound]
      · simp [zeros, hzero] at h

theorem toList_doubleColon : "::".toList = [':', ':'] := rfl

/-- Eight groups are read from their text. -/
theorem groups?_groupText {found : List UInt16} (eight : found.length = 8) :
    groups? (groupText found).toList = some (found, []) := by
  have hzeros := longestRun_le found
  rw [groupText]
  generalize longestRun found = run at hzeros ⊢
  obtain ⟨start, length⟩ := run
  have hlength : length ≤ 8 - start := by
    have hdrop := zeros_le_length (found.drop start)
    rw [List.length_drop, eight] at hdrop
    exact Nat.le_trans hzeros hdrop
  by_cases hlong : 1 < length
  · let tail := (colons (found.drop (start + length))).toList
    have hhead : groups true 8 ((colons (found.take start)).toList ++ ':' :: ':' :: tail) =
        (found.take start, false, ':' :: ':' :: tail) :=
      groups_colons (.inr ⟨_, rfl⟩) (by simp; omega)
    have hstart : (found.take start).length = start := by simp; omega
    have htail : groups true (7 - start) (tail ++ []) = (found.drop (start + length), false, []) :=
      groups_colons (.inl rfl) (by simp; omega)
    have hfound : found.take start ++ List.replicate length 0 ++ found.drop (start + length) =
        found := by
      rw [List.append_assoc, ← List.drop_drop, ← eq_replicate_append_drop hzeros,
        List.take_append_drop]
    have hmissing : 8 - start - (found.drop (start + length)).length = length := by
      simp
      omega
    rw [List.append_nil] at htail
    simp only [hlong, if_true, String.toList_append, toList_doubleColon, List.append_assoc,
      List.cons_append, List.nil_append]
    rw [groups?, hhead]
    simp only [hstart, htail, hmissing, hfound]
    rw [if_neg (by omega)]
    simp
  · have hall : groups true 8 ((colons found).toList ++ []) = (found, false, []) :=
      groups_colons (.inl rfl) (by omega)
    rw [List.append_nil] at hall
    simp only [hlong, if_false]
    rw [groups?, hall]
    simp [eight]

theorem octets?_colons (found : List UInt16) (divided : Divided rest) :
    octets? ((colons found).toList ++ rest) = none := by
  cases found with
  | nil => exact octets?_of_undotted [] List.not_mem_nil divided
  | cons group found =>
    rw [toList_colons, List.append_assoc]
    exact octets?_of_undotted _ (dot_not_mem_hexadecimal group) (divided_follow divided found)

theorem octets?_groupText (found : List UInt16) : octets? (groupText found).toList = none := by
  rw [groupText]
  obtain ⟨start, length⟩ := longestRun found
  by_cases hlong : 1 < length
  · simp only [hlong, if_true, String.toList_append, toList_doubleColon, List.append_assoc]
    exact octets?_colons _ (divided_colon _)
  · simp only [hlong, if_false]
    have hnone : octets? ((colons found).toList ++ []) = none :=
      octets?_colons found divided_nil
    rwa [List.append_nil] at hnone

/-! ### Reading a standard text -/

theorem parse?_dotted (a b c d : UInt8) : parse? (dotted a b c d) = some (.v4 a b c d) := by
  rw [parse?, octets?_dotted]

theorem parse?_groupText {found : List UInt16} (eight : found.length = 8) :
    parse? (groupText found) = some (.v6 found) := by
  rw [parse?, octets?_groupText, v6?, groups?_groupText eight]
  rfl

theorem pair_halves (group : UInt16) : pair (group >>> 8).toUInt8 group.toUInt8 = group := by
  apply UInt16.toNat_inj.1
  have hlt := group.toNat_lt
  simp [pair, Nat.shiftRight_eq_div_pow]
  omega

/-- The last two groups may be written as four octets. -/
theorem groups_dotted (a b c d : UInt8) {room : Nat} (fits : 2 ≤ room) :
    groups false room (':' :: (dotted a b c d).toList) = ([pair a b, pair c d], true, []) := by
  obtain ⟨room, rfl⟩ : ∃ n, room = n + 2 := Nat.exists_eq_add_of_le' fits
  rw [groups]
  simp [after?, octets?_dotted]

theorem parse?_mapped (high low : UInt16) :
    parse? ("::ffff:" ++ dotted (high >>> 8).toUInt8 high.toUInt8 (low >>> 8).toUInt8 low.toUInt8) =
      some (.v6 [0, 0, 0, 0, 0, 65535, high, low]) := by
  let octets := (dotted (high >>> 8).toUInt8 high.toUInt8 (low >>> 8).toUInt8 low.toUInt8).toList
  have htext : ("::ffff:" ++
      dotted (high >>> 8).toUInt8 high.toUInt8 (low >>> 8).toUInt8 low.toUInt8).toList =
        ':' :: ':' :: (hexadecimal 65535 ++ ':' :: octets) := by
    rw [String.toList_append]
    rfl
  have hoctets : octets? (':' :: ':' :: (hexadecimal 65535 ++ ':' :: octets)) = none :=
    octets?_of_undotted [] List.not_mem_nil (divided_colon _)
  have hhead : groups true 8 (':' :: ':' :: (hexadecimal 65535 ++ ':' :: octets)) = ([], false, _) :=
    groups_of_halts (.inr ⟨_, rfl⟩) true 8
  have htail : groups true 7 (hexadecimal 65535 ++ ':' :: octets) = ([65535, high, low], true, []) := by
    have hgroups := groups_cons 65535 6 (divided_colon octets) true
    rw [groups_dotted _ _ _ _ (by decide), pair_halves, pair_halves] at hgroups
    exact hgroups
  rw [parse?, htext, hoctets, v6?, groups?, hhead]
  simp [htail]

theorem length_groups_le (first : Bool) (room : Nat) (text : List Char) :
    (groups first room text).1.length ≤ room := by
  induction room generalizing first text with
  | zero => simp [groups]
  | succ room ih =>
    rw [groups]
    split
    · simp
    · split
      · rename_i hoctets
        have hroom : room ≠ 0 := fun h => by simp [h] at hoctets
        simp
        omega
      · split
        · simp
        · simpa using ih _ _

theorem length_of_groups? {text rest : List Char} {found : List UInt16}
    (h : groups? text = some (found, rest)) : found.length = 8 := by
  rw [groups?] at h
  have hhead := length_groups_le true 8 text
  generalize groups true 8 text = read at h hhead
  obtain ⟨head, dotted, after⟩ := read
  simp only at h hhead
  split at h
  · rename_i hfull
    obtain ⟨rfl, -⟩ := Prod.mk.inj (Option.some.inj h)
    exact hfull
  split at h
  · cases h
  split at h
  · rename_i tailText
    have htail := length_groups_le true (7 - head.length) tailText
    obtain ⟨rfl, -⟩ := Prod.mk.inj (Option.some.inj h)
    simp
    omega
  · cases h

/-- The standard text of an address that was read is read as the same address. -/
theorem parse?_text {text : String} {address : IpAddress} (h : parse? text = some address) :
    parse? address.text = some address := by
  rw [parse?] at h
  split at h
  · cases h
    exact parse?_dotted _ _ _ _
  · obtain ⟨found, hfound, rfl⟩ := Option.map_eq_some_iff.1 h
    have eight : found.length = 8 := by
      rw [v6?] at hfound
      split at hfound
      · rename_i hgroups
        cases hfound
        exact length_of_groups? hgroups
      · cases hfound
    unfold IpAddress.text
    split
    · rename_i heq
      cases heq
    · rename_i heq
      cases heq
      exact parse?_mapped _ _
    · rename_i heq
      cases heq
      exact parse?_groupText eight

end DynamicDns.IpAddress
