import Multiplex.Stan
import Mathlib.Algebra.Order.Group.Nat
import Mathlib.Data.List.Nodup
import Mathlib.Data.Nat.ModEq
import Mathlib.Logic.Function.Iterate

/-!
# The cycle of trace numbers

A trace number is written with six decimal digits, and every text of six decimal digits is a trace
number (`sixDigits_iff`). Whatever number a counter starts after, it issues all of them in turn and
then begins again, so that two of the numbers it issues are equal exactly if whole rounds lie
between them. Kept in a word of 32 bits it never overflows.

Main statement: `cycles_of_start`.
-/

namespace Multiplex.Stan

/-! ## Six decimal digits -/

/-- The text is a number written with exactly six decimal digits. -/
structure SixDigits (text : String) (n : Nat) : Prop where
  length : text.toList.length = 6
  digits : ∀ c ∈ text.toList, c.isDigit = true
  value : Nat.ofDigitChars 10 text.toList 0 = n

/-- The digit of a number below ten, and the number of a digit. -/
theorem digitChar_of_lt {d : Nat} (small : d < 10) :
    (Nat.digitChar d).isDigit = true ∧ (Nat.digitChar d).toNat - '0'.toNat = d := by
  have all : ∀ d < 10,
      (Nat.digitChar d).isDigit = true ∧ (Nat.digitChar d).toNat - '0'.toNat = d := by decide
  exact all d small

theorem exists_of_isDigit {c : Char} (digit : c.isDigit = true) :
    ∃ d < 10, c = Nat.digitChar d := by
  obtain ⟨low, high⟩ : 48 ≤ c.toNat ∧ c.toNat ≤ 57 := by
    simpa [Char.isDigit, UInt32.le_iff_toNat_le] using digit
  have same : c = Char.ofNat c.toNat := (Char.ofNat_toNat c).symm
  have all : ∀ n ≤ 57, 48 ≤ n → Char.ofNat n = Nat.digitChar (n - 48) := by decide
  exact ⟨c.toNat - 48, by omega, same.trans (all _ high low)⟩

/-- A number of six digits is written as it should be. -/
theorem sixDigits_render {n : Nat} (small : n < 1000000) : SixDigits (render n) n := by
  have digit (k : Nat) := digitChar_of_lt (Nat.mod_lt k (by decide : 0 < 10))
  have toList : (render n).toList = [Nat.digitChar (n / 100000 % 10),
      Nat.digitChar (n / 10000 % 10), Nat.digitChar (n / 1000 % 10), Nat.digitChar (n / 100 % 10),
      Nat.digitChar (n / 10 % 10), Nat.digitChar (n % 10)] := String.toList_ofList
  refine ⟨?_, ?_, ?_⟩
  · rw [toList]
    rfl
  · rw [toList]
    simp [(digit _).1]
  · rw [toList]
    simp only [Nat.ofDigitChars_cons, Nat.ofDigitChars_nil, (digit _).2]
    omega

/-- Six decimal digits write one number, and each number in one way. -/
theorem sixDigits_iff {text : String} {n : Nat} :
    SixDigits text n ↔ n < 1000000 ∧ text = render n := by
  constructor
  · rintro ⟨length, digits, value⟩
    obtain ⟨a, b, c, d, e, f, chars⟩ : ∃ a b c d e f, text.toList = [a, b, c, d, e, f] := by
      match h : text.toList, length with
      | [a, b, c, d, e, f], _ => exact ⟨a, b, c, d, e, f, rfl⟩
    simp only [chars, List.forall_mem_cons] at digits
    obtain ⟨da, db, dc, dd, de, df, -⟩ := digits
    obtain ⟨a, la, rfl⟩ := exists_of_isDigit da
    obtain ⟨b, lb, rfl⟩ := exists_of_isDigit db
    obtain ⟨c, lc, rfl⟩ := exists_of_isDigit dc
    obtain ⟨d, ld, rfl⟩ := exists_of_isDigit dd
    obtain ⟨e, le, rfl⟩ := exists_of_isDigit de
    obtain ⟨f, lf, rfl⟩ := exists_of_isDigit df
    rw [chars] at value
    simp only [Nat.ofDigitChars_cons, Nat.ofDigitChars_nil, (digitChar_of_lt la).2,
      (digitChar_of_lt lb).2, (digitChar_of_lt lc).2, (digitChar_of_lt ld).2,
      (digitChar_of_lt le).2, (digitChar_of_lt lf).2] at value
    refine ⟨by omega, ?_⟩
    -- the places of the number are the digits it was put together from
    have places : n / 100000 % 10 = a ∧ n / 10000 % 10 = b ∧ n / 1000 % 10 = c ∧
        n / 100 % 10 = d ∧ n / 10 % 10 = e ∧ n % 10 = f := by omega
    obtain ⟨pa, pb, pc, pd, pe, pf⟩ := places
    rw [← String.ofList_toList (s := text), chars, render, pa, pb, pc, pd, pe, pf]
  · rintro ⟨small, rfl⟩
    exact sixDigits_render small

/-- Numbers of six digits are told apart by their digits. -/
theorem render_injective {m n : Nat} (small : m < 1000000) (small' : n < 1000000)
    (same : render m = render n) : m = n := by
  rw [← (sixDigits_render small).value, same, (sixDigits_render small').value]

/-! ## What is issued -/

/-- The number that is issued as the `i`-th, counted from zero, is the start plus `i + 1`. -/
theorem issue_eq (n : Nat) (stan : Stan) :
    issue n stan =
      ((List.range n).map fun i => render ((stan.last + (i + 1)) % 1000000), skip n stan) := by
  induction n generalizing stan with
  | zero => rfl
  | succ n ih =>
    show (stan.next.text :: (issue n stan.next).1, (issue n stan.next).2) = _
    -- the number after the start is the first, and the others come after that one
    have later (i : Nat) : (stan.next.last + (i + 1)) % 1000000 =
        (stan.last + (i + 1 + 1)) % 1000000 := by
      rw [last_next]
      omega
    rw [ih, List.range_succ_eq_map, List.map_cons, List.map_map]
    simp only [later]
    rw [text, last_next]
    rfl

theorem getElem?_issue {n i : Nat} {stan : Stan} {text : String}
    (there : (issue n stan).1[i]? = some text) :
    i < n ∧ text = render ((stan.last + (i + 1)) % 1000000) := by
  rw [issue_eq, List.getElem?_map] at there
  obtain ⟨place, at_, rfl⟩ := Option.map_eq_some_iff.1 there
  obtain ⟨inside, rfl⟩ := List.getElem?_eq_some_iff.1 at_
  rw [List.length_range] at inside
  rw [List.getElem_range]
  exact ⟨inside, rfl⟩

/-- A million numbers in a row, the first of which comes after `k` others. -/
def round (k : Nat) (stan : Stan) : List String :=
  (issue (k + 1000000) stan).1.drop k

theorem round_eq (k : Nat) (stan : Stan) :
    round k stan =
      (List.range 1000000).map fun i => render ((stan.last + (k + i + 1)) % 1000000) := by
  rw [round, issue_eq, List.range_add, List.map_append, List.map_map]
  exact List.drop_left' (by rw [List.length_map, List.length_range])

theorem nodup_round (k : Nat) (stan : Stan) : (round k stan).Nodup := by
  rw [round_eq]
  refine List.nodup_range.map_on fun i low j low' same => ?_
  have below (x : Nat) : x % 1000000 < 1000000 := Nat.mod_lt x (by decide)
  have equal := render_injective (below _) (below _) same
  have := List.mem_range.1 low
  have := List.mem_range.1 low'
  omega

theorem mem_round {k : Nat} {stan : Stan} {text : String} :
    text ∈ round k stan ↔ ∃ n, SixDigits text n := by
  rw [round_eq, List.mem_map]
  constructor
  · rintro ⟨i, -, rfl⟩
    exact ⟨_, sixDigits_render (Nat.mod_lt _ (by decide))⟩
  · rintro ⟨n, written⟩
    obtain ⟨small, rfl⟩ := sixDigits_iff.1 written
    refine ⟨(n + 1000000 - (stan.last + k + 1) % 1000000) % 1000000, ?_, congrArg render ?_⟩
    · exact List.mem_range.2 (Nat.mod_lt _ (by decide))
    · omega

/-! ## The counter as a word -/

/-- A counter in a word of 32 bits after one more number has been issued: it is raised first, and
then compared with the greatest number. -/
def raise (word : UInt32) : UInt32 :=
  let raised := word + 1
  if 999999 < raised then 0 else raised

/-- The word holds what the counter holds, and raising it does not overflow. -/
theorem toNat_raise {word : UInt32} {stan : Stan} (same : word.toNat = stan.last) :
    (word + 1).toNat = stan.last + 1 ∧ (raise word).toNat = stan.next.last := by
  have le := stan.last_le
  have raised : (word + 1).toNat = stan.last + 1 := by
    rw [UInt32.toNat_add, same]
    show (stan.last + 1) % 4294967296 = _
    omega
  refine ⟨raised, ?_⟩
  have bound : (999999 : UInt32) < word + 1 ↔ 999999 < stan.last + 1 := by
    rw [UInt32.lt_iff_toNat_lt, raised]
    rfl
  unfold raise next
  by_cases below : stan.last < 999999
  · rw [dif_pos below, if_neg (by rw [bound]; omega), raised]
  · rw [dif_neg below, if_pos (by rw [bound]; omega)]
    rfl

theorem toNat_iterate_raise {word : UInt32} {stan : Stan} (same : word.toNat = stan.last)
    (n : Nat) : (raise^[n] word).toNat = (skip n stan).last := by
  induction n generalizing word stan with
  | zero => exact same
  | succ n ih => exact ih (toNat_raise same).2

theorem toNat_min (start : UInt32) :
    (min start 999999).toNat = (startingAfter start.toNat).last := by
  show (min start 999999).toNat = min start.toNat 999999
  rw [UInt32.toNat_min]
  rfl

/-- How a counter goes round that starts after any word of 32 bits. -/
structure Cycles (start : UInt32) : Prop where
  /-- As many numbers are issued as are asked for, and the `i`-th of them, counted from zero, is the
  start, cut down to the greatest number, plus `i + 1`, modulo a million. -/
  issued : ∀ n i, i < n → ∃ text, (issue n (startingAfter start.toNat)).1[i]? = some text ∧
    SixDigits text ((min start.toNat 999999 + (i + 1)) % 1000000)
  length : ∀ n, (issue n (startingAfter start.toNat)).1.length = n
  /-- The counter holds the number issued last. -/
  current : ∀ n, (issue n (startingAfter start.toNat)).2.last =
    (min start.toNat 999999 + n) % 1000000
  /-- A word of 32 bits that starts alike holds the same numbers, and raising it never
  overflows. -/
  word : ∀ n, (raise^[n] (min start 999999)).toNat = (skip n (startingAfter start.toNat)).last ∧
    (raise^[n] (min start 999999) + 1).toNat = (raise^[n] (min start 999999)).toNat + 1
  /-- Numbers are equal exactly if whole rounds lie between them. -/
  same_iff : ∀ n i j text text', (issue n (startingAfter start.toNat)).1[i]? = some text →
    (issue n (startingAfter start.toNat)).1[j]? = some text' →
    (text = text' ↔ i ≡ j [MOD 1000000])
  /-- A million numbers in a row are all texts of six digits, each once. -/
  round : ∀ k, (round k (startingAfter start.toNat)).Nodup ∧
    ∀ text, text ∈ Stan.round k (startingAfter start.toNat) ↔
      text.toList.length = 6 ∧ ∀ c ∈ text.toList, c.isDigit = true

/-- Whatever a counter starts after, it goes round. -/
theorem cycles_of_start (start : UInt32) : Cycles start := by
  refine
    { issued := fun n i inside => ?issued
      length := fun n => by rw [issue_eq, List.length_map, List.length_range]
      current := fun n => by rw [issue_eq]; exact last_skip n _
      word := fun n => ?word
      same_iff := fun n i j text text' there there' => ?same_iff
      round := fun k => ⟨nodup_round k _, fun text => ?round⟩ }
  case issued =>
    refine ⟨_, ?_, sixDigits_render (Nat.mod_lt _ (by decide))⟩
    rw [issue_eq, List.getElem?_map, List.getElem?_range inside]
    rfl
  case word =>
    have same := toNat_iterate_raise (toNat_min start) n
    exact ⟨same, by rw [(toNat_raise same).1, same]⟩
  case same_iff =>
    obtain ⟨-, rfl⟩ := getElem?_issue there
    obtain ⟨-, rfl⟩ := getElem?_issue there'
    have below (x : Nat) : x % 1000000 < 1000000 := Nat.mod_lt x (by decide)
    constructor
    · intro same
      have equal := render_injective (below _) (below _) same
      rw [Nat.ModEq]
      omega
    · intro rounds
      rw [Nat.ModEq] at rounds
      exact congrArg render (by omega)
  case round =>
    rw [mem_round]
    exact ⟨fun ⟨_, written⟩ => ⟨written.length, written.digits⟩,
      fun ⟨length, digits⟩ => ⟨_, length, digits, rfl⟩⟩

end Multiplex.Stan
