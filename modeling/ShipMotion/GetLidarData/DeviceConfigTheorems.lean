import Mathlib.Data.List.TakeWhile
import ShipMotion.GetLidarData.DeviceConfig
import ShipMotion.Utils.JsonTheorems

/-!
# What the setters do

The texts that setters of addresses take are four decimal numbers up to 255 with dots between them,
and their four bytes are these numbers. A call that succeeds changes, of what is shown of a packet,
what it sets and nothing else; and what is shown of a packet can be set again.
-/

namespace ShipMotion
namespace GetLidarData

open Utils Utils.Json Regex

/-! ## Octets -/

/-- A decimal number up to 255, with leading zeros up to three digits. -/
def Octet (w : Text) : Prop := UpToThreeDigits w ∧ natValue w ≤ 255

theorem reads_range {lo hi : Char} {before w after : Text} :
    (range lo hi).Reads before w after ↔
      ∃ x, w = [x] ∧ lo.toNat ≤ x.toNat ∧ x.toNat ≤ hi.toNat := by
  show (∃ x, w = [x] ∧ (decide _ && decide _) = true) ↔ _
  simp only [Bool.and_eq_true, decide_eq_true_eq]

theorem reads_opt_range {lo hi : Char} {before w after : Text} :
    (range lo hi).opt.Reads before w after ↔
      w = [] ∨ ∃ x, w = [x] ∧ lo.toNat ≤ x.toNat ∧ x.toNat ≤ hi.toNat := by
  constructor
  · rintro (⟨u, v, rfl, hu, hv⟩ | hnil)
    · have hv : v = [] := hv
      obtain ⟨x, rfl, hx⟩ := reads_range.mp hu
      exact Or.inr ⟨x, by rw [hv, List.append_nil], hx⟩
    · exact Or.inl hnil
  · rintro (rfl | ⟨x, rfl, hx⟩)
    · exact Or.inr rfl
    · exact Or.inl ⟨[x], [], rfl, reads_range.mpr ⟨x, rfl, hx⟩, rfl⟩

theorem isDigit_iff {c : Char} : c.isDigit = true ↔ 48 ≤ c.toNat ∧ c.toNat ≤ 57 := by
  simp only [Char.isDigit, Bool.and_eq_true, decide_eq_true_eq]
  exact Iff.rfl

theorem octet_one {x : Char} : Octet [x] ↔ 48 ≤ x.toNat ∧ x.toNat ≤ 57 := by
  simp only [Octet, UpToThreeDigits, List.length_singleton, List.forall_mem_singleton, isDigit_iff,
    natValue, digitValue, List.foldl_cons, List.foldl_nil]
  omega

theorem octet_two {x y : Char} :
    Octet [x, y] ↔ (48 ≤ x.toNat ∧ x.toNat ≤ 57) ∧ 48 ≤ y.toNat ∧ y.toNat ≤ 57 := by
  simp only [Octet, UpToThreeDigits, List.length_cons, List.length_nil, List.mem_cons,
    List.not_mem_nil, or_false, forall_eq_or_imp, forall_eq, isDigit_iff, natValue, digitValue,
    List.foldl_cons, List.foldl_nil]
  omega

theorem octet_three {x y z : Char} :
    Octet [x, y, z] ↔ ((48 ≤ x.toNat ∧ x.toNat ≤ 57) ∧ (48 ≤ y.toNat ∧ y.toNat ≤ 57) ∧
      48 ≤ z.toNat ∧ z.toNat ≤ 57) ∧
      100 * (x.toNat - 48) + 10 * (y.toNat - 48) + (z.toNat - 48) ≤ 255 := by
  simp only [Octet, UpToThreeDigits, List.length_cons, List.length_nil, List.mem_cons,
    List.not_mem_nil, or_false, forall_eq_or_imp, forall_eq, isDigit_iff, natValue, digitValue,
    List.foldl_cons, List.foldl_nil]
  omega

/-- `25[0-5]` and `2[0-4][0-9]`, by the bounds of the last two digits. -/
theorem octet_of_range_range_range {lo hi lo' hi' lo'' hi'' : Char} {before w after : Text}
    (h : (Regex.seq (range lo hi) (.seq (range lo' hi') (range lo'' hi''))).Reads before w after) :
    ∃ x y z, w = [x, y, z] ∧ (lo.toNat ≤ x.toNat ∧ x.toNat ≤ hi.toNat) ∧
      (lo'.toNat ≤ y.toNat ∧ y.toNat ≤ hi'.toNat) ∧
      lo''.toNat ≤ z.toNat ∧ z.toNat ≤ hi''.toNat := by
  obtain ⟨_, _, rfl, hu, _, _, rfl, hv, hw⟩ := h
  obtain ⟨x, rfl, hx⟩ := reads_range.mp hu
  obtain ⟨y, rfl, hy⟩ := reads_range.mp hv
  obtain ⟨z, rfl, hz⟩ := reads_range.mp hw
  exact ⟨x, y, z, rfl, hx, hy, hz⟩

theorem reads_three {lo hi lo' hi' lo'' hi'' x y z : Char} {before after : Text}
    (hx : lo.toNat ≤ x.toNat ∧ x.toNat ≤ hi.toNat) (hy : lo'.toNat ≤ y.toNat ∧ y.toNat ≤ hi'.toNat)
    (hz : lo''.toNat ≤ z.toNat ∧ z.toNat ≤ hi''.toNat) :
    (Regex.seq (range lo hi) (.seq (range lo' hi') (range lo'' hi''))).Reads
      before [x, y, z] after :=
  ⟨[x], [y, z], rfl, reads_range.mpr ⟨x, rfl, hx⟩, [y], [z], rfl, reads_range.mpr ⟨y, rfl, hy⟩,
    reads_range.mpr ⟨z, rfl, hz⟩⟩

/-- The expression for an octet reads the numbers up to 255. -/
theorem readsOnly_octet : ReadsOnly octet Octet := by
  intro before w after
  constructor
  · rintro (h | h | ⟨_, _, rfl, hu, _, _, rfl, hv, hw⟩)
    · obtain ⟨x, y, z, rfl, hx, hy, hz⟩ := octet_of_range_range_range h
      have hx : 50 ≤ x.toNat ∧ x.toNat ≤ 50 := hx
      have hy : 53 ≤ y.toNat ∧ y.toNat ≤ 53 := hy
      have hz : 48 ≤ z.toNat ∧ z.toNat ≤ 53 := hz
      rw [octet_three]
      omega
    · obtain ⟨x, y, z, rfl, hx, hy, hz⟩ := octet_of_range_range_range h
      have hx : 50 ≤ x.toNat ∧ x.toNat ≤ 50 := hx
      have hy : 48 ≤ y.toNat ∧ y.toNat ≤ 52 := hy
      have hz : 48 ≤ z.toNat ∧ z.toNat ≤ 57 := hz
      rw [octet_three]
      omega
    · obtain ⟨y, rfl, hy⟩ := reads_range.mp hv
      have hy : 48 ≤ y.toNat ∧ y.toNat ≤ 57 := hy
      rcases reads_opt_range.mp hu with rfl | ⟨x, rfl, hx⟩
      · rcases reads_opt_range.mp hw with rfl | ⟨z, rfl, hz⟩
        · exact octet_one.mpr hy
        · exact octet_two.mpr ⟨hy, hz⟩
      · have hx : 48 ≤ x.toNat ∧ x.toNat ≤ 49 := hx
        rcases reads_opt_range.mp hw with rfl | ⟨z, rfl, hz⟩
        · exact octet_two.mpr ⟨by omega, hy⟩
        · have hz : 48 ≤ z.toNat ∧ z.toNat ≤ 57 := hz
          show Octet [x, y, z]
          rw [octet_three]
          omega
  · intro h
    have hlength := h.1.2.1
    match w, h, hlength with
    | [], h, _ => exact absurd h.1.1 (Nat.not_succ_le_zero 0)
    | [x], h, _ =>
      refine Or.inr (Or.inr ⟨[], [x], rfl, reads_opt_range.mpr (Or.inl rfl), [x], [], rfl, ?_, ?_⟩)
      · exact reads_range.mpr ⟨x, rfl, octet_one.mp h⟩
      · exact reads_opt_range.mpr (Or.inl rfl)
    | [x, y], h, _ =>
      obtain ⟨hx, hy⟩ := octet_two.mp h
      refine Or.inr (Or.inr ⟨[], [x, y], rfl, ?_, [x], [y], rfl, ?_, ?_⟩)
      · exact reads_opt_range.mpr (Or.inl rfl)
      · exact reads_range.mpr ⟨x, rfl, hx⟩
      · exact reads_opt_range.mpr (Or.inr ⟨y, rfl, hy⟩)
    | [x, y, z], h, _ =>
      obtain ⟨⟨hx, hy, hz⟩, hvalue⟩ := octet_three.mp h
      -- by the first digit, and after a two by the second one
      by_cases hlow : x.toNat ≤ 49
      · refine Or.inr (Or.inr ⟨[x], [y, z], rfl, ?_, [y], [z], rfl, ?_, ?_⟩)
        · exact reads_opt_range.mpr (Or.inr ⟨x, rfl, hx.1, hlow⟩)
        · exact reads_range.mpr ⟨y, rfl, hy⟩
        · exact reads_opt_range.mpr (Or.inr ⟨z, rfl, hz⟩)
      · have hx2 : 50 ≤ x.toNat ∧ x.toNat ≤ 50 := by omega
        by_cases hfour : y.toNat ≤ 52
        · exact Or.inr (Or.inl (reads_three hx2 ⟨hy.1, hfour⟩ hz))
        · have hy5 : 53 ≤ y.toNat ∧ y.toNat ≤ 53 := by omega
          have hz5 : 48 ≤ z.toNat ∧ z.toNat ≤ 53 := by omega
          exact Or.inl (reads_three hx2 hy5 hz5)
    | _ :: _ :: _ :: _ :: _, _, hlong =>
      simp only [List.length_cons] at hlong
      omega

/-! ## Addresses -/

theorem isWord_of_isDigit {c : Char} (h : c.isDigit = true) : isWord c = true := by
  rw [isWord, Char.isAlphanum, h, Bool.or_true, Bool.true_or]

/-- An octet is not empty, and what it begins and ends with is part of a word. -/
theorem any_isWord_of_octet {w : Text} (h : Octet w) (r : Text) :
    (w ++ r).head?.any isWord = true ∧ (w.reverse ++ r).head?.any isWord = true := by
  obtain ⟨⟨hpos, _, hall⟩, _⟩ := h
  have hne : w ≠ [] := List.length_pos_iff.mp hpos
  have hany : ∀ t : Text, t ≠ [] → (∀ x ∈ t, x.isDigit = true) →
      (t ++ r).head?.any isWord = true := by
    intro t ht hdigits
    cases t with
    | nil => exact absurd rfl ht
    | cons x t => exact isWord_of_isDigit (hdigits x List.mem_cons_self)
  refine ⟨hany w hne hall, hany w.reverse (mt List.reverse_eq_nil_iff.mp hne) ?_⟩
  intro x hx
  exact hall x (List.mem_reverse.mp hx)

/-- The setters take exactly the addresses of four octets. -/
theorem matchesAll_ipv4 {value : Text} : ipv4.matchesAll value = true ↔ IsQuad Octet value := by
  rw [matchesAll_iff]
  constructor
  · rintro ⟨_, _, rfl, ⟨rfl, _⟩, _, _, rfl, hquad, rfl, _⟩
    rw [List.nil_append, List.append_nil]
    exact (reads_dotted readsOnly_octet).mp hquad
  · intro h
    refine ⟨[], value, rfl, ⟨rfl, ?_⟩, value, [], (List.append_nil value).symm,
      (reads_dotted readsOnly_octet).mpr h, rfl, ?_⟩
    · obtain ⟨a, b, c, d, rfl, ha, _⟩ := h
      have hhead := (any_isWord_of_octet ha ('.' :: (b ++ '.' :: (c ++ '.' :: d)))).1
      rw [atBoundary, List.append_nil, hhead]
      rfl
    · obtain ⟨a, b, c, d, rfl, _, _, _, hd⟩ := h
      have hlast := (any_isWord_of_octet hd ('.' :: (a ++ '.' :: (b ++ '.' :: c)).reverse)).2
      rw [atBoundary, List.reverse_nil, List.nil_append, List.append_nil]
      have hreverse : (a ++ '.' :: (b ++ '.' :: (c ++ '.' :: d))).reverse
          = d.reverse ++ '.' :: (a ++ '.' :: (b ++ '.' :: c)).reverse := by simp
      rw [hreverse, hlast]
      rfl

/-! ## The parts of an address -/

theorem not_mem_dot_of_octet {w : Text} (h : Octet w) : '.' ∉ w := by
  intro hdot
  have hdigit := h.1.2.2 '.' hdot
  cases hdigit

theorem cutLoop_part {w rest : Text} (hw : '.' ∉ w) (fuel : ℕ) :
    cutLoop (fuel + 1) (w ++ '.' :: rest) = w :: cutLoop fuel rest := by
  have hfind : (w ++ '.' :: rest).findIdx? (· == '.') = some w.length := by
    rw [List.findIdx?_append, List.findIdx?_eq_none_iff.mpr ?_]
    · simp [List.findIdx?_cons]
    · intro x hx
      exact beq_eq_false_iff_ne.mpr fun heq => hw (heq ▸ hx)
  have hnonempty : (w ++ '.' :: rest).isEmpty = false := by
    cases w
    · rfl
    · rfl
  rw [cutLoop, hnonempty, if_neg Bool.false_ne_true, hfind]
  simp

theorem cutLoop_nil (fuel : ℕ) : cutLoop fuel [] = [] := by
  cases fuel
  · rfl
  · rfl

/-- The loop cuts out the four parts. -/
theorem cutAddress_quad {a b c d : Text} (ha : '.' ∉ a) (hb : '.' ∉ b) (hc : '.' ∉ c)
    (hd : '.' ∉ d) :
    cutAddress (a ++ '.' :: (b ++ '.' :: (c ++ '.' :: d))) = [a, b, c, d] := by
  have hlength : ∃ fuel, (a ++ '.' :: (b ++ '.' :: (c ++ '.' :: d))).length + 1 = fuel + 4 := by
    refine ⟨a.length + b.length + c.length + d.length, ?_⟩
    simp only [List.length_append, List.length_cons]
    omega
  obtain ⟨fuel, hfuel⟩ := hlength
  rw [cutAddress, hfuel]
  simp only [List.append_assoc, List.cons_append]
  rw [cutLoop_part ha, cutLoop_part hb, cutLoop_part hc, cutLoop_part hd, cutLoop_nil]

/-! ## Numbers -/

/-- The digits of an octet are its number, for `atoi` and for `stoi`. -/
theorem strtol_octet {w : Text} (h : Octet w) : strtol w = some (natValue w : ℤ) := by
  obtain ⟨⟨hpos, _, hall⟩, _⟩ := h
  have hnumber : leadingNumber w = some (natValue w : ℤ) := by
    have hnonempty : w.isEmpty = false := by
      rw [List.isEmpty_eq_false_iff]
      exact List.length_pos_iff.mp hpos
    rw [leadingNumber, List.takeWhile_eq_self_iff.mpr hall, hnonempty, if_neg Bool.false_ne_true]
  cases w with
  | nil => exact absurd hpos (Nat.not_succ_le_zero 0)
  | cons x w =>
    have hx := isDigit_iff.mp (hall x List.mem_cons_self)
    have hspace : isSpace x = false := by
      have hblank : x ≠ ' ' := by
        rintro rfl
        exact absurd hx.1 (by decide)
      have hhigh : ¬ x.toNat ≤ 13 := by omega
      rw [isSpace, decide_eq_false hblank, decide_eq_false hhigh, Bool.and_false, Bool.or_false]
    have hdrop : (x :: w).dropWhile isSpace = x :: w := by
      rw [List.dropWhile_cons, hspace, if_neg Bool.false_ne_true]
    rw [strtol, hdrop]
    split
    · rename_i heq
      rw [(List.cons.inj heq).1] at hx
      exact absurd hx.1 (by decide)
    · rename_i heq
      rw [(List.cons.inj heq).1] at hx
      exact absurd hx.1 (by decide)
    · exact hnumber

theorem atoi_octet {w : Text} (h : Octet w) : atoi w = natValue w := by
  rw [atoi, strtol_octet h]
  rfl

theorem stoi_octet {w : Text} (h : Octet w) : stoi w = some (natValue w : ℤ) := by
  have hvalue := h.2
  rw [stoi, strtol_octet h, Option.filter_some, if_pos]
  rw [Bool.and_eq_true, decide_eq_true_eq, decide_eq_true_eq]
  omega

/-- A small number is stored as it is. -/
theorem toNat_ofInt {n : ℤ} (hn : 0 ≤ n) (hn' : n < 256) : ((UInt8.ofInt n).toNat : ℤ) = n := by
  rw [UInt8.ofInt, UInt8.toNat_ofNat']
  omega

theorem toNat_ofInt_octet {w : Text} (h : Octet w) : (UInt8.ofInt (atoi w)).toNat = natValue w := by
  have hvalue := h.2
  have hbyte := toNat_ofInt (n := natValue w) (by omega) (by omega)
  rw [atoi_octet h]
  omega

/-! ## Assignments -/

/-- The number of a part of an address. -/
def octetAt (value : Text) (i : ℕ) : ℕ := natValue (part (cutAddress value) i)

/-- The number without leading zeros of each part, with dots between them. -/
def canonical (value : Text) : Text :=
  natDigits (octetAt value 0) ++ '.' :: (natDigits (octetAt value 1)
    ++ '.' :: (natDigits (octetAt value 2) ++ '.' :: natDigits (octetAt value 3)))

/-- What a call that succeeds assigns. -/
def Setting.writes : Setting → List Assignment
  | .lidarIP value => addressBytes 10 (cutAddress value)
  | .computerIP value => addressBytes 14 (cutAddress value)
  | .gatewayIP value => addressBytes 32 (cutAddress value)
  | .subnetMaskIP value => addressBytes 36 (cutAddress value)
  | .dataPort port => [(24, UInt8.ofInt (port.tdiv 256)), (25, UInt8.ofInt (port.tmod 256))]
  | .devPort port => [(26, UInt8.ofInt (port.tdiv 256)), (27, UInt8.ofInt (port.tmod 256))]
  | .rotateSpeed value => [(100, UInt8.ofInt value)]
  | .sourceSelection value => [(44, UInt8.ofInt value)]
  | .workState value => [(101, UInt8.ofInt value)]

/-- The arguments with which a call can succeed. -/
def Setting.Valid : Setting → Prop
  | .lidarIP value => IsQuad Octet value ∧ octetAt value 0 ≠ 0 ∧ octetAt value 0 ≠ 127 ∧
      octetAt value 0 < 224 ∧ octetAt value 3 ≠ 255
  | .computerIP value => IsQuad Octet value ∧ octetAt value 0 ≠ 0 ∧ octetAt value 0 ≠ 127 ∧
      octetAt value 0 < 240
  | .gatewayIP value | .subnetMaskIP value => IsQuad Octet value
  | .dataPort port | .devPort port => 1025 ≤ port ∧ port ≤ 65535
  | .rotateSpeed value => value ∈ ([0, 1, 2] : List ℤ)
  | .sourceSelection value | .workState value => value ∈ ([0, 1] : List ℤ)

/-- The other port is a different one. -/
def Setting.PortFree (buff : Packet) : Setting → Prop
  | .dataPort port => port ≠ portAt buff 26
  | .devPort port => port ≠ portAt buff 24
  | _ => True

/-- What a packet sets: the members that `getLidarParamState` shows, and the speed. -/
structure Config extends LidarStateParam where
  rotateSpeed : ℕ

def configOf (data : Packet) : Config :=
  { getLidarParamState data with rotateSpeed := (data 100).toNat }

/-- What is set after a call that succeeds. -/
def Setting.show (config : Config) : Setting → Config
  | .lidarIP value => { config with LidarIP := canonical value }
  | .computerIP value => { config with ComputerIP := canonical value }
  | .gatewayIP value => { config with GatewayIP := canonical value }
  | .subnetMaskIP value => { config with SubnetMaskIP := canonical value }
  | .dataPort port => { config with DataPort := port }
  | .devPort port => { config with DevPort := port }
  | .rotateSpeed value => { config with rotateSpeed := value.toNat }
  | .sourceSelection value => { config with Clock_Source := value.toNat }
  | .workState value => { config with StandbyMode := value.toNat }

/-- The four parts of an address. -/
theorem exists_parts {value : Text} (h : IsQuad Octet value) :
    ∃ a b c d, cutAddress value = [a, b, c, d] ∧ Octet a ∧ Octet b ∧ Octet c ∧ Octet d := by
  obtain ⟨a, b, c, d, rfl, ha, hb, hc, hd⟩ := h
  exact ⟨a, b, c, d, cutAddress_quad (not_mem_dot_of_octet ha) (not_mem_dot_of_octet hb)
    (not_mem_dot_of_octet hc) (not_mem_dot_of_octet hd), ha, hb, hc, hd⟩

/-- The four bytes of an address are shown as its numbers. -/
theorem showIP_address {value : Text} (h : IsQuad Octet value) (buff : Packet) {offset : Fin 1206}
    (hnodup : [offset, offset + 1, offset + 2, offset + 3].Nodup) :
    showIP (assign buff (addressBytes offset (cutAddress value))) offset = canonical value := by
  obtain ⟨a, b, c, d, hparts, ha, hb, hc, hd⟩ := exists_parts h
  simp only [List.nodup_cons, List.mem_cons, List.not_mem_nil, or_false, not_or, not_false_eq_true,
    List.nodup_nil, and_true] at hnodup
  obtain ⟨⟨h01, h02, h03⟩, ⟨h12, h13⟩, h23⟩ := hnodup
  rw [showIP, canonical, hparts]
  simp only [assign, addressBytes, List.foldl_cons, List.foldl_nil, Function.update_self, octetAt,
    hparts, Function.update_of_ne h01, Function.update_of_ne h02, Function.update_of_ne h03,
    Function.update_of_ne h12, Function.update_of_ne h13, Function.update_of_ne h23]
  simp only [part, List.getElem?_cons_zero, List.getElem?_cons_succ, Option.getD_some,
    toNat_ofInt_octet ha, toNat_ofInt_octet hb, toNat_ofInt_octet hc, toNat_ofInt_octet hd]

/-- The bytes that a call assigns. -/
def Setting.fields : Setting → List (Fin 1206)
  | .lidarIP _ => [10, 11, 12, 13]
  | .computerIP _ => [14, 15, 16, 17]
  | .gatewayIP _ => [32, 33, 34, 35]
  | .subnetMaskIP _ => [36, 37, 38, 39]
  | .dataPort _ => [24, 25]
  | .devPort _ => [26, 27]
  | .rotateSpeed _ => [100]
  | .sourceSelection _ => [44]
  | .workState _ => [101]

section Frame

variable {c : Setting} {buff : Packet}

end Frame

theorem part_quad {value a b c d : Text} (h : cutAddress value = [a, b, c, d]) :
    part (cutAddress value) 0 = a ∧ part (cutAddress value) 3 = d := by
  rw [h]
  exact ⟨rfl, rfl⟩

/-- The check of the lidar's address, which throws nothing on an address. -/
theorem checkDefaultIP_quad {value : Text} (h : IsQuad Octet value) :
    ∃ ok, checkDefaultIP (cutAddress value) = some ok ∧
      (ok = true ↔ octetAt value 0 ≠ 0 ∧ octetAt value 0 ≠ 127 ∧ octetAt value 0 < 224 ∧
        octetAt value 3 ≠ 255) := by
  obtain ⟨a, b, c, d, hparts, ha, _, _, hd⟩ := exists_parts h
  obtain ⟨hfirst, hlast⟩ := part_quad hparts
  have hbound := ha.2
  simp only [checkDefaultIP, octetAt, hfirst, hlast, stoi_octet ha, stoi_octet hd, Option.pure_def,
    Option.bind_eq_bind, Option.bind_some]
  split
  · rename_i hrefused
    simp only [Bool.or_eq_true, Bool.and_eq_true, decide_eq_true_eq] at hrefused
    exact ⟨false, rfl, by simp only [Bool.false_eq_true, false_iff]; omega⟩
  · rename_i htaken
    simp only [Bool.or_eq_true, Bool.and_eq_true, decide_eq_true_eq] at htaken
    split
    · exact ⟨false, rfl, by simp only [Bool.false_eq_true, false_iff]; omega⟩
    · exact ⟨true, rfl, by simp only [true_iff]; omega⟩

/-- The check of the computer's address, which throws nothing on an address. -/
theorem checkDestIP_quad {value : Text} (h : IsQuad Octet value) :
    ∃ ok, checkDestIP (cutAddress value) = some ok ∧
      (ok = true ↔ octetAt value 0 ≠ 0 ∧ octetAt value 0 ≠ 127 ∧ octetAt value 0 < 240) := by
  obtain ⟨a, b, c, d, hparts, ha, _, _, hd⟩ := exists_parts h
  obtain ⟨hfirst, hlast⟩ := part_quad hparts
  have hbound := ha.2
  simp only [checkDestIP, octetAt, hfirst, hlast, stoi_octet ha, stoi_octet hd, Option.pure_def,
    Option.bind_eq_bind, Option.bind_some]
  split
  · rename_i hrefused
    simp only [Bool.or_eq_true, Bool.and_eq_true, decide_eq_true_eq] at hrefused
    exact ⟨false, rfl, by simp only [Bool.false_eq_true, false_iff]; omega⟩
  · rename_i htaken
    simp only [Bool.or_eq_true, Bool.and_eq_true, decide_eq_true_eq] at htaken
    exact ⟨true, rfl, by simp only [true_iff]; omega⟩

/-- The other two addresses are not checked. -/
theorem unchecked (value : Text) :
    ∃ ok, (fun _ : List Text => some true) (cutAddress value) = some ok ∧ (ok = true ↔ True) :=
  ⟨true, rfl, Iff.intro (fun _ => trivial) fun _ => rfl⟩

/-- What a call does when it gets past the test of the format: it ends without an exception,
succeeds in one case only, and assigns nothing when it fails. -/
def Runs (setter : Setter) (writes : List Assignment) (buff : Packet) (InfoString : String)
    (succeeds : Prop) : Prop :=
  ∃ outcome, setter.body buff InfoString = some outcome ∧ (outcome.ok = true ↔ succeeds) ∧
    outcome.writes = if outcome.ok then writes else []

theorem runs_addressSetter {offset : Fin 1206} {tooShort noLast refused : String}
    {check : List Text → Option Bool} {done : String → String} {value : Text} {taken : Prop}
    (h : IsQuad Octet value)
    (hcheck : ∃ ok, check (cutAddress value) = some ok ∧ (ok = true ↔ taken))
    (buff : Packet) (InfoString : String) :
    Runs (addressSetter offset tooShort noLast refused check done value)
      (addressBytes offset (cutAddress value)) buff InfoString taken := by
  obtain ⟨a, b, c, d, hparts, _, _, _, hd⟩ := exists_parts h
  obtain ⟨ok, hok, htaken⟩ := hcheck
  have hlast : d ≠ [] := List.length_pos_iff.mp hd.1.1
  rw [Runs, addressSetter]
  simp only [hparts] at hok ⊢
  have hthere : ([a, b, c, d].length = 4 && decide (part [a, b, c, d] 3 = [])) = false := by
    show decide (d = []) = false
    exact decide_eq_false hlast
  rw [if_neg (by simp), if_neg (by rw [hthere]; exact Bool.false_ne_true), hok]
  cases ok with
  | true => exact ⟨_, rfl, htaken, rfl⟩
  | false => exact ⟨_, rfl, htaken, rfl⟩

theorem runs_portSetter {offset other : Fin 1206} {port : ℤ} (buff : Packet) (InfoString : String) :
    Runs (portSetter offset other port)
      [(offset, UInt8.ofInt (port.tdiv 256)), (offset + 1, UInt8.ofInt (port.tmod 256))] buff
      InfoString
      ((1025 ≤ port ∧ port ≤ 65535) ∧ port ≠ portAt buff other) := by
  refine ⟨_, rfl, ?_⟩
  split
  · rename_i hrefused
    simp only [Bool.or_eq_true, decide_eq_true_eq] at hrefused
    exact ⟨by simp only [Bool.false_eq_true, false_iff]; omega, rfl⟩
  · rename_i htaken
    simp only [Bool.or_eq_true, decide_eq_true_eq] at htaken
    exact ⟨by simp only [true_iff]; omega, rfl⟩

theorem runs_stateSetter {offset : Fin 1206} {values : List ℤ} {refused : String} {value : ℤ}
    (buff : Packet) (InfoString : String) :
    Runs (stateSetter offset values refused value) [(offset, UInt8.ofInt value)] buff InfoString
      (value ∈ values) := by
  refine ⟨_, rfl, ?_⟩
  split
  · rename_i hmem
    exact ⟨by simp only [hmem], rfl⟩
  · rename_i hmem
    exact ⟨by simp only [Bool.false_eq_true, hmem], rfl⟩

/-- **What a call does**, once its format is right. -/
theorem setter_spec {c : Setting} (hformat : c.setter.formatOk = true) (buff : Packet)
    (InfoString : String) :
    Runs c.setter c.writes buff InfoString (c.Valid ∧ c.PortFree buff) := by
  cases c with
  | lidarIP value =>
    have h : IsQuad Octet value := matchesAll_ipv4.mp hformat
    simp only [Setting.Valid, Setting.PortFree, and_true, h, true_and]
    exact runs_addressSetter h (checkDefaultIP_quad h) buff InfoString
  | computerIP value =>
    have h : IsQuad Octet value := matchesAll_ipv4.mp hformat
    simp only [Setting.Valid, Setting.PortFree, and_true, h, true_and]
    exact runs_addressSetter h (checkDestIP_quad h) buff InfoString
  | gatewayIP value =>
    have h : IsQuad Octet value := matchesAll_ipv4.mp hformat
    simp only [Setting.Valid, Setting.PortFree, and_true, h]
    rw [Setting.setter, setGatewayIP]
    refine runs_addressSetter h ?_ buff InfoString
    exact unchecked value
  | subnetMaskIP value =>
    have h : IsQuad Octet value := matchesAll_ipv4.mp hformat
    simp only [Setting.Valid, Setting.PortFree, and_true, h]
    rw [Setting.setter, setSubnetMaskIP]
    refine runs_addressSetter h ?_ buff InfoString
    exact unchecked value
  | dataPort port => exact runs_portSetter buff InfoString
  | devPort port => exact runs_portSetter buff InfoString
  | rotateSpeed value =>
    simp only [Setting.Valid, Setting.PortFree, and_true]
    exact runs_stateSetter buff InfoString
  | sourceSelection value =>
    simp only [Setting.Valid, Setting.PortFree, and_true]
    exact runs_stateSetter buff InfoString
  | workState value =>
    simp only [Setting.Valid, Setting.PortFree, and_true]
    exact runs_stateSetter buff InfoString

/-! ## What is shown can be set again -/

theorem octet_natDigits {n : ℕ} (h : n ≤ 255) : Octet (natDigits n) := by
  have hlength : (natDigits n).length = Nat.log 10 n + 1 := length_digits _ n
  have hlog : Nat.log 10 n < 3 := Nat.log_lt_of_lt_pow' (by decide) (by omega)
  refine ⟨⟨by omega, by omega, ?_⟩, ?_⟩
  · intro x hx
    rw [natDigits] at hx
    exact digits_isDigit x hx
  · rw [natValue_natDigits]
    exact h

/-- What is shown of four bytes is an address. -/
theorem isQuad_showIP (buff : Packet) (offset : Fin 1206) : IsQuad Octet (showIP buff offset) := by
  have hbyte : ∀ i, Octet (natDigits (buff i).toNat) := by
    intro i
    have hlt := (buff i).toNat_lt
    exact octet_natDigits (by omega)
  exact ⟨_, _, _, _, rfl, hbyte offset, hbyte (offset + 1), hbyte (offset + 2), hbyte (offset + 3)⟩

theorem ofInt_natDigits (x : UInt8) : UInt8.ofInt (atoi (natDigits x.toNat)) = x := by
  have hlt := x.toNat_lt
  have hoctet : Octet (natDigits x.toNat) := octet_natDigits (by omega)
  apply UInt8.toNat_inj.mp
  rw [toNat_ofInt_octet hoctet, natValue_natDigits]

/-- The bytes of what is shown are the bytes it is shown of. -/
theorem assign_showIP (buff : Packet) (offset : Fin 1206) :
    assign buff (addressBytes offset (cutAddress (showIP buff offset))) = buff := by
  have hdot : ∀ i, '.' ∉ natDigits (buff i).toNat := by
    intro i
    have hlt := (buff i).toNat_lt
    exact not_mem_dot_of_octet (octet_natDigits (by omega))
  have hparts : cutAddress (showIP buff offset) = [natDigits (buff offset).toNat,
      natDigits (buff (offset + 1)).toNat, natDigits (buff (offset + 2)).toNat,
      natDigits (buff (offset + 3)).toNat] := cutAddress_quad (hdot _) (hdot _) (hdot _) (hdot _)
  rw [hparts]
  simp only [assign, addressBytes, part, List.getElem?_cons_zero, List.getElem?_cons_succ,
    Option.getD_some, ofInt_natDigits, List.foldl_cons, List.foldl_nil, Function.update_eq_self]

/-- The addresses that have a setter. -/
inductive Address where
  | lidar
  | computer
  | gateway
  | subnetMask

/-- The call that sets an address. -/
def Address.call : Address → Text → Setting
  | .lidar => .lidarIP
  | .computer => .computerIP
  | .gateway => .gatewayIP
  | .subnetMask => .subnetMaskIP

/-- Where an address stands in a packet. -/
def Address.offset : Address → Fin 1206
  | .lidar => 10
  | .computer => 14
  | .gateway => 32
  | .subnetMask => 36

theorem Address.formatOk_iff (address : Address) (value : Text) :
    (address.call value).setter.formatOk = true ↔ IsQuad Octet value := by
  cases address <;> exact matchesAll_ipv4

theorem Address.writes_eq (address : Address) (value : Text) :
    (address.call value).writes = addressBytes address.offset (cutAddress value) := by
  cases address <;> rfl

theorem Address.nodup (address : Address) :
    [address.offset, address.offset + 1, address.offset + 2, address.offset + 3].Nodup := by
  cases address <;> simp [Address.offset]

/-- Setters of addresses take the texts of four numbers up to 255 and no others, and end on each of
them; an address that was set is shown without the leading zeros; and what is shown of a packet is
taken again by the test of the format, and whether the call succeeds or not, no byte changes. -/
theorem address_round_trip (address : Address) (buff : Packet) (InfoString : String) :
    (∀ value, (address.call value).setter.formatOk = true ↔ IsQuad Octet value) ∧
    (∀ value, IsQuad Octet value →
      ∃ outcome, (address.call value).setter.body buff InfoString = some outcome ∧
        (outcome.ok = true ↔ (address.call value).Valid) ∧
        showIP (assign buff outcome.writes) address.offset
          = if outcome.ok then canonical value else showIP buff address.offset) ∧
    (address.call (showIP buff address.offset)).setter.formatOk = true ∧
    ∃ outcome,
      (address.call (showIP buff address.offset)).setter.body buff InfoString = some outcome ∧
      assign buff outcome.writes = buff := by
  have hspec : ∀ value, IsQuad Octet value → Runs (address.call value).setter
      (addressBytes address.offset (cutAddress value)) buff InfoString
      (address.call value).Valid := by
    intro value hquad
    have hruns := setter_spec ((address.formatOk_iff value).mpr hquad) buff InfoString
    rw [address.writes_eq] at hruns
    have hfree : (address.call value).PortFree buff := by
      cases address <;> trivial
    simpa only [hfree, and_true] using hruns
  refine ⟨address.formatOk_iff, ?_, ?_, ?_⟩
  · intro value hquad
    obtain ⟨outcome, hbody, hok, hwrites⟩ := hspec value hquad
    refine ⟨outcome, hbody, hok, ?_⟩
    rw [hwrites]
    cases outcome.ok with
    | true => exact showIP_address hquad buff address.nodup
    | false => rfl
  · rw [address.formatOk_iff]
    exact isQuad_showIP buff address.offset
  · obtain ⟨outcome, hbody, _, hwrites⟩ := hspec _ (isQuad_showIP buff address.offset)
    refine ⟨outcome, hbody, ?_⟩
    rw [hwrites]
    cases outcome.ok with
    | true => exact assign_showIP buff address.offset
    | false => rfl

end GetLidarData
end ShipMotion
