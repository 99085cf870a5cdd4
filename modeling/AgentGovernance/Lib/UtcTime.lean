import AgentGovernance.Lib.Rfc3339

/-!
# UTC times with leap seconds

A time in UTC as whole seconds since 1970-01-01 and nanoseconds within the second, in the years
-262143 to 262142.  The last second of a minute may be followed by a leap second, which counts as
its nanoseconds from one thousand million on.

In a text the leap second is the 60th of its minute, so that different times have different texts.
-/

namespace AgentGovernance.Lib

/-- The first second of the first year. -/
def minSeconds : Int := -8334601228800

/-- The last second of the last year. -/
def maxSeconds : Int := 8210266876799

/-- Seconds and nanoseconds that make up a time. -/
def ValidTime (seconds : Int64) (nanos : UInt32) : Prop :=
  minSeconds ≤ seconds.toInt ∧ seconds.toInt ≤ maxSeconds ∧
    (nanos.toNat < 1000000000 ∨ (nanos.toNat < 2000000000 ∧ seconds.toInt % 60 = 59))

instance (seconds : Int64) (nanos : UInt32) : Decidable (ValidTime seconds nanos) :=
  inferInstanceAs (Decidable (_ ∧ _ ∧ _))

/-- `DateTime<Utc>`. -/
structure UtcTime where
  /-- `timestamp()`. -/
  seconds : Int64
  /-- `timestamp_subsec_nanos()`. -/
  nanos : UInt32
  valid : ValidTime seconds nanos
  deriving DecidableEq

namespace UtcTime

/-- `Utc.timestamp_opt(..).single()`. -/
def timestampOpt (seconds : Int64) (nanos : UInt32) : Option UtcTime :=
  if h : ValidTime seconds nanos then some ⟨seconds, nanos, h⟩ else none

/-- The time whose parts they are, if there is one. -/
theorem timestampOpt_eq_some_iff {seconds : Int64} {nanos : UInt32} {t : UtcTime} :
    timestampOpt seconds nanos = some t ↔ t.seconds = seconds ∧ t.nanos = nanos := by
  unfold timestampOpt
  constructor
  · intro h
    split at h
    · rw [← Option.some.inj h]
      exact ⟨rfl, rfl⟩
    · cases h
  · rintro ⟨rfl, rfl⟩
    rw [dif_pos t.valid]

/-- The earlier second comes first, and then the earlier nanosecond. -/
def Before (s t : UtcTime) : Prop :=
  s.seconds.toInt < t.seconds.toInt ∨
    (s.seconds.toInt = t.seconds.toInt ∧ s.nanos.toNat < t.nanos.toNat)

instance (s t : UtcTime) : Decidable (s.Before t) :=
  inferInstanceAs (Decidable (_ ∨ _))

/-- A time outside leap seconds. -/
def Ordinary (t : UtcTime) : Prop :=
  t.nanos.toNat < 1000000000

/-- Nanoseconds since the epoch. -/
def toNanos (t : UtcTime) : Int :=
  t.seconds.toInt * 1000000000 + t.nanos.toNat

/-- Outside leap seconds the order is that of the nanoseconds. -/
theorem before_iff_toNanos_lt {s t : UtcTime} (hs : s.Ordinary) (ht : t.Ordinary) :
    s.Before t ↔ s.toNanos < t.toNanos := by
  unfold Ordinary at hs ht
  unfold Before toNanos
  omega

/-! ## Texts -/

open Rfc3339 (Stamp)

/-- Calendar date and time of day, where the second of a minute may be the 60th. -/
def stamp (t : UtcTime) : Stamp :=
  let whole := Rfc3339.stamp (t.seconds.toInt * 1000000000)
  { whole with
    second := whole.second + t.nanos.toNat / 1000000000
    nano := ⟨t.nanos.toNat % 1000000000, Nat.mod_lt _ (by decide)⟩ }

/-- Outside leap seconds it is the stamp of the nanoseconds. -/
theorem stamp_eq_of_ordinary {t : UtcTime} (h : t.Ordinary) :
    t.stamp = Rfc3339.stamp t.toNanos := by
  unfold Ordinary at h
  have hday : (t.seconds.toInt * 1000000000) / Rfc3339.dayNanos = t.toNanos / Rfc3339.dayNanos := by
    simp only [Rfc3339.dayNanos, toNanos]
    omega
  simp only [stamp, Rfc3339.stamp, hday, Stamp.mk.injEq, true_and, Fin.mk.injEq]
  simp only [toNanos, Rfc3339.dayNanos]
  omega

/-- The stamp has the second 60 exactly in a leap second. -/
theorem stamp_second (t : UtcTime) :
    (t.Ordinary ∧ t.stamp.second = (Rfc3339.stamp (t.seconds.toInt * 1000000000)).second ∧
      t.stamp.second < 60) ∨
      (1000000000 ≤ t.nanos.toNat ∧ t.nanos.toNat < 2000000000 ∧ t.stamp.second = 60) := by
  obtain ⟨-, -, hvalid⟩ := t.valid
  simp only [Ordinary, stamp, Rfc3339.stamp, Rfc3339.dayNanos]
  omega

/-- **Different times have different stamps.** -/
theorem stamp_injective : Function.Injective stamp := by
  intro s t h
  have hnano : s.nanos.toNat % 1000000000 = t.nanos.toNat % 1000000000 :=
    congrArg (fun st => st.nano.val) h
  have hsecond : s.stamp.second = t.stamp.second := congrArg Stamp.second h
  -- both are leap seconds or neither is
  have hleap : s.nanos.toNat / 1000000000 = t.nanos.toNat / 1000000000 := by
    have hs := stamp_second s
    have ht := stamp_second t
    simp only [Ordinary] at hs ht
    omega
  -- the date and the time of day are those of the whole seconds
  have hwhole : Rfc3339.stamp (s.seconds.toInt * 1000000000) =
      Rfc3339.stamp (t.seconds.toInt * 1000000000) := by
    simp only [stamp, Stamp.mk.injEq] at h
    obtain ⟨hyear, hmonth, hday, hhour, hminute, hsec, -⟩ := h
    have hzero : ∀ n : Int, (Rfc3339.stamp (n * 1000000000)).nano = ⟨0, by decide⟩ := by
      intro n
      simp only [Rfc3339.stamp, Rfc3339.dayNanos, Fin.mk.injEq]
      omega
    rw [hleap] at hsec
    cases hs : Rfc3339.stamp (s.seconds.toInt * 1000000000)
    cases ht : Rfc3339.stamp (t.seconds.toInt * 1000000000)
    have hs₀ := hzero s.seconds.toInt
    have ht₀ := hzero t.seconds.toInt
    simp_all
  -- so the seconds agree, and with the leap seconds the nanoseconds
  have hsame := Rfc3339.stamp_injective hwhole
  obtain ⟨sseconds, snanos, hsvalid⟩ := s
  obtain ⟨tseconds, tnanos, htvalid⟩ := t
  have hseconds : sseconds = tseconds := Int64.toInt_inj.mp (by simpa using hsame)
  have hnanos : snanos = tnanos := UInt32.toNat_inj.mp (by dsimp only at hnano hleap; omega)
  simp [hseconds, hnanos]

/-- The parts of a text. -/
def fields (st : Stamp) : Int × Nat × Nat × Nat × Nat × Nat × Fin 1000000000 :=
  (st.year, st.month, st.day, st.hour, st.minute, st.second, st.nano)

theorem fields_injective : Function.Injective fields := by
  intro st st' h
  cases st
  cases st'
  simp_all [fields]

theorem isDigit_dash : '-'.isDigit = false := rfl

theorem isDigit_colon : ':'.isDigit = false := rfl

theorem isDigit_letter : 'T'.isDigit = false := rfl

/-- The text of calendar date and time. -/
def calendar : PrefixCode Char Stamp :=
  (Rfc3339.year.pair ((number 2 '-' isDigit_dash).pair ((number 2 'T' isDigit_letter).pair
    ((number 2 ':' isDigit_colon).pair ((number 2 ':' isDigit_colon).pair
      Rfc3339.seconds))))).comap fields fields_injective

/-- The JSON string of a time. -/
def json : PrefixCode Char UtcTime :=
  ((calendar.comap stamp stamp_injective).tagged [quote]).ended [quote]

/-- Outside leap seconds it is the string of the nanoseconds. -/
theorem json_enc_of_ordinary {t : UtcTime} (h : t.Ordinary) :
    json.enc t = Rfc3339.jsonInstant.enc t.toNanos := by
  have hstamp := stamp_eq_of_ordinary h
  show _ ++ calendar.enc t.stamp ++ _ = _
  rw [hstamp]
  rfl

/-- The leap second at the end of 2016. -/
example : (timestampOpt 1483228799 1500000000).map (fun t => String.ofList (json.enc t)) =
    some "\"2016-12-31T23:59:60.500Z\"" := by
  decide +kernel

end UtcTime

end AgentGovernance.Lib
