import AgentGovernance.Lib.JsonText
import Mathlib.Tactic.Ring

/-!
# RFC 3339 timestamps

The text of an instant in UTC, as calendar date, time of day and a fraction of a
second with no more groups of three digits than needed.  Instants are nanoseconds
since 1970-01-01; the calendar is the proleptic Gregorian one, computed with years
that start in March so that the leap day comes last.

`instant` is the text as a self-delimiting code, so different instants have
different texts.
-/

namespace AgentGovernance.Lib.Rfc3339

/-! ## Calendar -/

/-- Calendar date and time of day. -/
structure Stamp where
  year : Int
  month : Nat
  day : Nat
  hour : Nat
  minute : Nat
  second : Nat
  nano : Fin 1000000000
  deriving DecidableEq, Repr

/-- A day in years from March, with the day of that year. -/
structure MarchDay where
  year : Int
  dayOfYear : Int

/-- Days since 0000-03-01 in eras of 400 years, centuries, and spans of four years.  The last
    century of an era and the last year of a span are one day longer. -/
def marchDay (z : Int) : MarchDay :=
  let dayOfEra := z % 146097
  let century := min (dayOfEra / 36524) 3
  let dayOfCentury := dayOfEra - century * 36524
  let dayOfSpan := dayOfCentury % 1461
  let yearOfSpan := min (dayOfSpan / 365) 3
  { year := z / 146097 * 400 + century * 100 + dayOfCentury / 1461 * 4 + yearOfSpan
    dayOfYear := dayOfSpan - yearOfSpan * 365 }

/-- The month counted from March, of a day of a March year. -/
def marchMonth (dayOfYear : Int) : Int :=
  (5 * dayOfYear + 2) / 153

/-- The number of a month counted from March. -/
def monthNumber (m : Int) : Int :=
  if m < 10 then m + 3 else m - 9

def dayNanos : Int := 86400000000000

/-- The calendar date and time of an instant. -/
def stamp (t : Int) : Stamp :=
  let d := marchDay (t / dayNanos + 719468)
  let m := marchMonth d.dayOfYear
  let time := t % dayNanos
  { year := if monthNumber m ≤ 2 then d.year + 1 else d.year
    month := (monthNumber m).toNat
    day := (d.dayOfYear - (153 * m + 2) / 5 + 1).toNat
    hour := (time / 3600000000000).toNat
    minute := (time / 60000000000 % 60).toNat
    second := (time / 1000000000 % 60).toNat
    nano := ⟨(time % 1000000000).toNat, by omega⟩ }

theorem marchDay_dayOfYear (z : Int) :
    0 ≤ (marchDay z).dayOfYear ∧ (marchDay z).dayOfYear ≤ 365 := by
  simp only [marchDay]
  omega

/-- Year and day of the year determine the day. -/
theorem marchDay_injective {y z : Int} (hyear : (marchDay y).year = (marchDay z).year)
    (hday : (marchDay y).dayOfYear = (marchDay z).dayOfYear) : y = z := by
  simp only [marchDay] at hyear hday
  omega

/-- Months run from 0 to 11, and days of the month are not negative. -/
theorem marchMonth_bounds {d : Int} (h₀ : 0 ≤ d) (h₁ : d ≤ 365) :
    0 ≤ marchMonth d ∧ marchMonth d ≤ 11 ∧ 0 ≤ d - (153 * marchMonth d + 2) / 5 := by
  simp only [marchMonth]
  omega

theorem monthNumber_injective {m n : Int} (hm₀ : 0 ≤ m) (hm₁ : m ≤ 11) (hn₀ : 0 ≤ n)
    (hn₁ : n ≤ 11) (h : (monthNumber m).toNat = (monthNumber n).toNat) : m = n := by
  simp only [monthNumber] at h
  split_ifs at h <;> omega

/-- A quotient is given by the coarser quotient and the remainder in between. -/
theorem ediv_eq_of_coarser {a b n m : Int} (hn : 0 ≤ n) (hquot : a / (n * m) = b / (n * m))
    (hrem : a / n % m = b / n % m) : a / n = b / n := by
  rw [← Int.mul_ediv_add_emod (a / n) m, ← Int.mul_ediv_add_emod (b / n) m,
    Int.ediv_ediv_of_nonneg hn, Int.ediv_ediv_of_nonneg hn, hquot, hrem]

theorem eq_of_toNat_eq {a b : Int} (ha : 0 ≤ a) (hb : 0 ≤ b) (h : a.toNat = b.toNat) : a = b := by
  omega

/-- Hours, minutes, seconds and nanoseconds determine the time of day. -/
theorem timeOfDay_injective {s t : Int} (hs : 0 ≤ s) (ht : 0 ≤ t)
    (hhour : (s / 3600000000000).toNat = (t / 3600000000000).toNat)
    (hminute : (s / 60000000000 % 60).toNat = (t / 60000000000 % 60).toNat)
    (hsecond : (s / 1000000000 % 60).toNat = (t / 1000000000 % 60).toNat)
    (hnano : (s % 1000000000).toNat = (t % 1000000000).toNat) : s = t := by
  have hmod : ∀ a m : Int, 0 < m → 0 ≤ a % m := fun a m hm => Int.emod_nonneg a hm.ne'
  -- from the hours down to the nanoseconds, each unit with the one above it
  have hhours : s / (60000000000 * 60) = t / (60000000000 * 60) :=
    eq_of_toNat_eq (Int.ediv_nonneg hs (by decide)) (Int.ediv_nonneg ht (by decide)) hhour
  have hminutes : s / (1000000000 * 60) = t / (1000000000 * 60) :=
    ediv_eq_of_coarser (by decide) hhours
      (eq_of_toNat_eq (hmod _ _ (by decide)) (hmod _ _ (by decide)) hminute)
  have hseconds : s / 1000000000 = t / 1000000000 :=
    ediv_eq_of_coarser (by decide) hminutes
      (eq_of_toNat_eq (hmod _ _ (by decide)) (hmod _ _ (by decide)) hsecond)
  have hnanos : s % 1000000000 = t % 1000000000 :=
    eq_of_toNat_eq (hmod _ _ (by decide)) (hmod _ _ (by decide)) hnano
  rw [← Int.mul_ediv_add_emod s 1000000000, ← Int.mul_ediv_add_emod t 1000000000, hseconds, hnanos]

/-- **Different instants are different calendar stamps.** -/
theorem stamp_injective : Function.Injective stamp := by
  intro s t h
  simp only [stamp, Stamp.mk.injEq, Fin.mk.injEq] at h
  obtain ⟨hyear, hmonth, hday, hhour, hminute, hsecond, hnano⟩ := h
  have htime : s % dayNanos = t % dayNanos :=
    timeOfDay_injective (Int.emod_nonneg _ (by decide)) (Int.emod_nonneg _ (by decide))
      hhour hminute hsecond hnano
  -- the date gives the day, through the year that begins in March
  have hdays : s / dayNanos + 719468 = t / dayNanos + 719468 := by
    obtain ⟨hs₀, hs₁⟩ := marchDay_dayOfYear (s / dayNanos + 719468)
    obtain ⟨ht₀, ht₁⟩ := marchDay_dayOfYear (t / dayNanos + 719468)
    obtain ⟨hsm₀, hsm₁, hsd⟩ := marchMonth_bounds hs₀ hs₁
    obtain ⟨htm₀, htm₁, htd⟩ := marchMonth_bounds ht₀ ht₁
    have hm := monthNumber_injective hsm₀ hsm₁ htm₀ htm₁ hmonth
    rw [hm] at hyear hday hsd
    refine marchDay_injective ?_ ?_
    · -- the months from January on belong to the year that began in the March before
      by_cases hjan : monthNumber (marchMonth (marchDay (t / dayNanos + 719468)).dayOfYear) ≤ 2
      · rw [if_pos hjan, if_pos hjan] at hyear
        exact add_right_cancel hyear
      · rw [if_neg hjan, if_neg hjan] at hyear
        exact hyear
    · omega
  rw [← Int.mul_ediv_add_emod s dayNanos, ← Int.mul_ediv_add_emod t dayNanos, htime,
    add_right_cancel hdays]

/-! ## Text -/

/-- Padded numbers start with a digit, so not with a sign. -/
theorem padded_cons (w n : Nat) : ∃ d ds, padded w n = d :: ds ∧ d ≠ '-' ∧ d ≠ '+' := by
  have hne : padded w n ≠ [] := by
    intro h
    exact Nat.toDigits_ne_nil (List.append_eq_nil_iff.mp h).2
  obtain ⟨d, ds, h⟩ := List.exists_cons_of_ne_nil hne
  have hd : d.isDigit = true := isDigit_of_mem_padded (h ▸ List.mem_cons_self)
  refine ⟨d, ds, h, ?_, ?_⟩ <;> rintro rfl <;> exact Bool.false_ne_true hd

/-- A number that fits has exactly the width. -/
theorem length_padded {w n : Nat} (hw : 0 < w) (h : n < 10 ^ w) : (padded w n).length = w := by
  have hlen : (Nat.toDigits 10 n).length ≤ w := (Nat.length_toDigits_le_iff (by decide) hw).mpr h
  rw [padded, List.length_append, List.length_replicate]
  omega

def yearSign (y : Int) : List Char :=
  if y < 0 then ['-'] else if 9999 < y then ['+'] else []

theorem yearSign_cases (y : Int) :
    (y < 0 ∧ yearSign y = ['-']) ∨ (9999 < y ∧ yearSign y = ['+']) ∨
    (0 ≤ y ∧ yearSign y = []) := by
  unfold yearSign
  split_ifs <;> simp_all

def year : PrefixCode Char Int where
  enc y := yearSign y ++ (number 4 '-' rfl).enc y.natAbs
  unique a b x y h := by
    obtain ⟨c, cs, hc, hcm, hcp⟩ := padded_cons 4 a.natAbs
    obtain ⟨d, ds, hd, hdm, hdp⟩ := padded_cons 4 b.natAbs
    have hsame : yearSign a = yearSign b → (0 ≤ a ↔ 0 ≤ b) → a = b ∧ x = y := by
      intro hsign hab
      rw [hsign, List.append_assoc, List.append_assoc] at h
      obtain ⟨habs, hxy⟩ := (number 4 '-' rfl).unique _ _ _ _ (List.append_cancel_left h)
      exact ⟨by omega, hxy⟩
    -- texts with different signs differ in the first character
    rcases yearSign_cases a with ⟨ha, ea⟩ | ⟨ha, ea⟩ | ⟨ha, ea⟩ <;>
    rcases yearSign_cases b with ⟨hb, eb⟩ | ⟨hb, eb⟩ | ⟨hb, eb⟩ <;>
    simp only [number, ea, eb, hc, hd, List.cons_append, List.nil_append, List.cons.injEq] at h
    · exact hsame (by rw [ea, eb]) (by omega)
    · exact absurd h.1 (by decide)
    · exact absurd h.1.symm hdm
    · exact absurd h.1 (by decide)
    · exact hsame (by rw [ea, eb]) (by omega)
    · exact absurd h.1.symm hdp
    · exact absurd h.1 hcm
    · exact absurd h.1 hcp
    · exact hsame (by rw [ea, eb]) (by omega)

/-- The digits of a fraction of a second: three, six or nine of them. -/
def fractionDigits (n : Nat) : List Char :=
  if n % 1000000 = 0 then padded 3 (n / 1000000)
  else if n % 1000 = 0 then padded 6 (n / 1000)
  else padded 9 n

/-- The fraction of a second, left out when it is zero. -/
def fraction (n : Nat) : List Char :=
  if n = 0 then [] else '.' :: fractionDigits n

/-- The digits, continued to nine with zeros, are the nanoseconds. -/
theorem ofDigitChars_fractionDigits {n : Nat} (h : n < 1000000000) :
    Nat.ofDigitChars 10 (fractionDigits n) 0 * 10 ^ (9 - (fractionDigits n).length) = n := by
  unfold fractionDigits
  split_ifs with hmilli hmicro
  · rw [ofDigitChars_padded, length_padded (by decide) (by omega)]
    omega
  · rw [ofDigitChars_padded, length_padded (by decide) (by omega)]
    omega
  · rw [ofDigitChars_padded, length_padded (by decide) (by omega)]
    omega

theorem isDigit_of_mem_fractionDigits {n : Nat} {c : Char} (h : c ∈ fractionDigits n) :
    c.isDigit = true := by
  unfold fractionDigits at h
  split_ifs at h <;> exact isDigit_of_mem_padded h

/-- Seconds, fraction and the zone letter. -/
def seconds : PrefixCode Char (Nat × Fin 1000000000) where
  enc p := padded 2 p.1 ++ (fraction p.2 ++ ['Z'])
  unique p q x y h := by
    obtain ⟨s, m⟩ := p
    obtain ⟨t, n⟩ := q
    have hzone : ('Z' : Char).isDigit = false := rfl
    have hst : padded 2 s = padded 2 t → s = t := fun e => by
      rw [← ofDigitChars_padded 2 s, e, ofDigitChars_padded]
    have hdigits : ∀ k, ∀ d ∈ padded 2 k, d.isDigit = true := fun _ _ => isDigit_of_mem_padded
    simp only [fraction] at h
    by_cases hm : m.val = 0 <;> by_cases hn : n.val = 0 <;>
    simp only [hm, hn, if_true, if_false, List.nil_append, List.append_assoc,
      List.cons_append] at h <;>
    obtain ⟨hs, hstop, hrest⟩ := cut_digits (hdigits s) (hdigits t) rfl rfl h
    · exact ⟨Prod.ext (hst hs) (Fin.ext (hm.trans hn.symm)), hrest⟩
    · exact absurd hstop (by decide)
    · exact absurd hstop (by decide)
    · obtain ⟨hfrac, -, hxy⟩ := cut_digits (fun _ => isDigit_of_mem_fractionDigits)
        (fun _ => isDigit_of_mem_fractionDigits) hzone hzone hrest
      have hmn : m.val = n.val := by
        rw [← ofDigitChars_fractionDigits m.isLt, hfrac, ofDigitChars_fractionDigits n.isLt]
      exact ⟨Prod.ext (hst hs) (Fin.ext hmn), hxy⟩

def instant : PrefixCode Char Int :=
  (year.pair ((number 2 '-' rfl).pair ((number 2 'T' rfl).pair ((number 2 ':' rfl).pair
    ((number 2 ':' rfl).pair seconds))))).comap
    (fun t => ((stamp t).year, (stamp t).month, (stamp t).day, (stamp t).hour, (stamp t).minute,
      (stamp t).second, (stamp t).nano))
    (fun s t h => by
      simp only [Prod.mk.injEq] at h
      obtain ⟨h₁, h₂, h₃, h₄, h₅, h₆, h₇⟩ := h
      refine stamp_injective ?_
      cases hs : stamp s
      cases ht : stamp t
      simp_all)

def jsonInstant : PrefixCode Char Int :=
  (instant.tagged [quote]).ended [quote]

theorem year_printable : year.Printable := by
  intro y ch hch
  rcases List.mem_append.mp hch with h | h
  · rcases yearSign_cases y with ⟨-, e⟩ | ⟨-, e⟩ | ⟨-, e⟩ <;> rw [e] at h
    · rw [List.mem_singleton.mp h]
      decide
    · rw [List.mem_singleton.mp h]
      decide
    · cases h
  · exact number_printable 4 '-' rfl (by decide) _ ch h

theorem seconds_printable : seconds.Printable := by
  intro p ch hch
  simp only [seconds, fraction, List.mem_append, List.mem_singleton] at hch
  rcases hch with h | h | rfl
  · exact printable_of_isDigit (isDigit_of_mem_padded h)
  · split_ifs at h
    · cases h
    · rcases List.mem_cons.mp h with rfl | h
      · decide
      · exact printable_of_isDigit (isDigit_of_mem_fractionDigits h)
  · decide

theorem jsonInstant_printable : jsonInstant.Printable := by
  refine .ended (.tagged (.comap (.pair year_printable ?_) _ _) (by decide)) (by decide)
  refine .pair (number_printable _ _ _ (by decide)) (.pair (number_printable _ _ _ (by decide)) ?_)
  refine .pair (number_printable _ _ _ (by decide)) (.pair (number_printable _ _ _ (by decide)) ?_)
  exact seconds_printable

example : String.ofList (instant.enc 0) = "1970-01-01T00:00:00Z" := by decide

end AgentGovernance.Lib.Rfc3339
