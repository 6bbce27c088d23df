import SqlTemplate.Proofs.Number.Exact
import SqlTemplate.Rows.Grouping

/-!
# When two values are one key

A mapping takes two values for one key if they are equal, and equality looks at what the
values stand for (`Value.SameKey`).  Numbers of all types are compared as rational numbers,
points in time by the instant if both carry an offset, and tuples item by item; a NaN and a
value of which nothing is known are the same as nothing.

The keys themselves are compared by their forms, and both comparisons come to the same
(`Key.same_iff`).  The comparison of keys is symmetric and transitive, but because of the
NaNs it is not reflexive.
-/

namespace SqlTemplate

open SqlTemplate.Number

/-! ## Equal values -/

/-- How great a number is. -/
inductive Magnitude where
  | finite (x : ℚ)
  | infinite (negative : Bool)

/-- How great the number is that a scalar is, if it is one; a truth value counts as one. -/
def Scalar.magnitude? : Scalar → Option Magnitude
  | bool b => some (.finite (if b then 1 else 0))
  | int i => some (.finite i)
  | float (.finite negative significand exponent) =>
      some (.finite (Binary64.toRat negative significand exponent))
  | float (.infinite negative) => some (.infinite negative)
  | decimal (.finite negative coefficient exponent) =>
      some (.finite (Decimal.toRat negative coefficient exponent))
  | decimal (.infinite negative) => some (.infinite negative)
  | _ => none

inductive Scalar.IsNaN : Scalar → Prop
  | float : IsNaN (.float .nan)
  | decimal (negative signaling : Bool) (payload : Nat) :
      IsNaN (.decimal (.nan negative signaling payload))

/-- Equal times of day.  A time with an offset is never equal to one without. -/
inductive TimeOfDay.Coincides : TimeOfDay → TimeOfDay → Prop
  | unzoned {a : TimeOfDay} (h : a.offset = none) : Coincides a a
  | zoned {a b : TimeOfDay} (ha : a.offset ≠ none) (hb : b.offset ≠ none)
      (hseconds : a.sinceMidnight = b.sinceMidnight)
      (hmicroseconds : a.microsecond = b.microsecond) : Coincides a b

/-- Equal points in time.  A point with an offset is never equal to one without. -/
inductive DateTime.Coincides : DateTime → DateTime → Prop
  | unzoned {a : DateTime} (h : a.time.offset = none) : Coincides a a
  | zoned {a b : DateTime} (ha : a.time.offset ≠ none) (hb : b.time.offset ≠ none)
      (hseconds : a.instant = b.instant)
      (hmicroseconds : a.time.microsecond = b.time.microsecond) : Coincides a b

mutual

/-- Two values that are one key of a mapping. -/
inductive Value.SameKey : Value → Value → Prop
  | null : SameKey .null .null
  /-- Numbers of all types are compared by what they are worth. -/
  | number {s t : Scalar} {m : Magnitude} (hs : s.magnitude? = some m)
      (ht : t.magnitude? = some m) : SameKey (.scalar s) (.scalar t)
  | text (s : String) : SameKey (.text s) (.text s)
  | date (d : Date) : SameKey (.scalar (.date d)) (.scalar (.date d))
  | time {a b : TimeOfDay} (h : a.Coincides b) :
      SameKey (.scalar (.time a)) (.scalar (.time b))
  | dateTime {a b : DateTime} (h : a.Coincides b) :
      SameKey (.scalar (.dateTime a)) (.scalar (.dateTime b))
  | uuid (u : Nat) : SameKey (.scalar (.uuid u)) (.scalar (.uuid u))
  | bytes (octets : List UInt8) : SameKey (.bytes octets) (.bytes octets)
  | skip : SameKey .skip .skip
  | tuple {as bs : List Value} (h : Value.SameKeys as bs) :
      SameKey (.sequence .tuple as) (.sequence .tuple bs)

/-- Tuples of the same length with the same items. -/
inductive Value.SameKeys : List Value → List Value → Prop
  | nil : SameKeys [] []
  | cons {a b : Value} {as bs : List Value} (h : Value.SameKey a b)
      (hrest : Value.SameKeys as bs) : SameKeys (a :: as) (b :: bs)

end

/-! ## What a key tells about its value -/

/-- A calculation in two steps succeeds only if both steps do. -/
theorem exists_of_bind_eq_ok {α β ε : Type} {first : Except ε α} {next : α → Except ε β} {b : β}
    (h : first >>= next = .ok b) : ∃ a, first = .ok a ∧ next a = .ok b := by
  cases first with
  | error reason => cases h
  | ok a => exact ⟨a, rfl, h⟩

/-- A key together with a value that it is the key of. -/
inductive Key.Describes : Key → Value → Prop
  | null : Describes .null .null
  | number {s : Scalar} {e : Exact} (hs : s.magnitude? = some (.finite e.toRat))
      (he : e.Reduced) : Describes (.number e) (.scalar s)
  | infinity {s : Scalar} {negative : Bool} (hs : s.magnitude? = some (.infinite negative)) :
      Describes (.infinity negative) (.scalar s)
  | text (s : String) : Describes (.text s) (.text s)
  | bytes (octets : List UInt8) : Describes (.bytes octets) (.bytes octets)
  | date (d : Date) : Describes (.date d) (.scalar (.date d))
  | time {t : TimeOfDay} (h : t.offset = none) : Describes (.time t) (.scalar (.time t))
  | universalTime {t : TimeOfDay} (h : t.offset ≠ none) :
      Describes (.universalTime t.sinceMidnight t.microsecond) (.scalar (.time t))
  | dateTime {t : DateTime} (h : t.time.offset = none) :
      Describes (.dateTime t) (.scalar (.dateTime t))
  | instant {t : DateTime} (h : t.time.offset ≠ none) :
      Describes (.instant t.instant t.time.microsecond) (.scalar (.dateTime t))
  | uuid (u : Nat) : Describes (.uuid u) (.scalar (.uuid u))
  | skip : Describes .skip .skip
  | tuple {items : List Value} {keys : List Key} (h : Value.keys items = .ok keys) :
      Describes (.tuple keys) (.sequence .tuple items)
  | nan {s : Scalar} (h : s.IsNaN) : Describes .unique (.scalar s)
  | foreign : Describes .unique .foreign

theorem Scalar.describes_of_key {s : Scalar} {key : Key} (h : s.key = .ok key) :
    key.Describes (.scalar s) := by
  cases s with
  | bool b =>
      obtain rfl := Except.ok.inj h
      refine .number ?_ (Exact.reduced_ofFactors ..)
      rw [Exact.toRat_ofInt]
      cases b <;> simp [magnitude?]
  | int i =>
      obtain rfl := Except.ok.inj h
      refine .number ?_ (Exact.reduced_ofFactors ..)
      rw [Exact.toRat_ofInt, magnitude?]
  | float x =>
      cases x with
      | finite negative significand exponent =>
          obtain rfl := Except.ok.inj h
          refine .number ?_ (Exact.reduced_ofFactors ..)
          rw [Exact.toRat_ofBinary, magnitude?]
      | infinite negative =>
          obtain rfl := Except.ok.inj h
          exact .infinity rfl
      | nan =>
          obtain rfl := Except.ok.inj h
          exact .nan .float
  | decimal d =>
      cases d with
      | finite negative coefficient exponent =>
          obtain rfl := Except.ok.inj h
          refine .number ?_ (Exact.reduced_ofFactors ..)
          rw [Exact.toRat_ofDecimal, magnitude?]
      | infinite negative =>
          obtain rfl := Except.ok.inj h
          exact .infinity rfl
      | nan negative signaling payload =>
          cases signaling with
          | false =>
              obtain rfl := Except.ok.inj h
              exact .nan (.decimal negative false payload)
          | true => cases h
  | text s =>
      obtain rfl := Except.ok.inj h
      exact .text s
  | date d =>
      obtain rfl := Except.ok.inj h
      exact .date d
  | time t =>
      rw [Scalar.key] at h
      split at h
      · next hoffset =>
          obtain rfl := Except.ok.inj h
          exact .time hoffset
      · next offset hoffset =>
          obtain rfl := Except.ok.inj h
          exact .universalTime (by rw [hoffset]; exact nofun)
  | dateTime t =>
      rw [Scalar.key] at h
      split at h
      · next hoffset =>
          obtain rfl := Except.ok.inj h
          exact .dateTime hoffset
      · next offset hoffset =>
          obtain rfl := Except.ok.inj h
          exact .instant (by rw [hoffset]; exact nofun)
  | uuid u =>
      obtain rfl := Except.ok.inj h
      exact .uuid u

theorem Value.describes_of_key {value : Value} {key : Key} (h : value.key = .ok key) :
    key.Describes value := by
  cases value with
  | null =>
      obtain rfl := Except.ok.inj h
      exact .null
  | scalar s => exact Scalar.describes_of_key h
  | sequence kind items =>
      cases kind with
      | list => cases h
      | tuple =>
          rw [Value.key] at h
          obtain ⟨keys, hkeys, htuple⟩ := exists_of_bind_eq_ok h
          obtain rfl := Except.ok.inj htuple
          exact .tuple hkeys
  | mapping kind entries => cases kind <;> cases h
  | bytes octets =>
      obtain rfl := Except.ok.inj h
      exact .bytes octets
  | set members => cases h
  | foreign =>
      obtain rfl := Except.ok.inj h
      exact .foreign
  | skip =>
      obtain rfl := Except.ok.inj h
      exact .skip

/-! ## Comparing keys and comparing values -/

/-- The key of a number is a number or an infinity. -/
theorem Key.Describes.of_magnitude? {key : Key} {s : Scalar} {m : Magnitude}
    (h : key.Describes (.scalar s)) (hs : s.magnitude? = some m) :
    (∃ e, key = .number e ∧ m = .finite e.toRat ∧ e.Reduced) ∨
      ∃ negative, key = .infinity negative ∧ m = .infinite negative := by
  cases h with
  | @number _ e hnumber he => exact .inl ⟨e, rfl, Option.some.inj (hs.symm.trans hnumber), he⟩
  | @infinity _ negative hinfinity =>
      exact .inr ⟨negative, rfl, Option.some.inj (hs.symm.trans hinfinity)⟩
  | nan hnan => cases hnan <;> cases hs
  | _ => cases hs

theorem Scalar.key_time_of_unzoned {t : TimeOfDay} (h : t.offset = none) :
    (Scalar.time t).key = .ok (.time t) := by
  rw [Scalar.key, h]

theorem Scalar.key_time_of_zoned {t : TimeOfDay} (h : t.offset ≠ none) :
    (Scalar.time t).key = .ok (.universalTime t.sinceMidnight t.microsecond) := by
  obtain ⟨offset, hoffset⟩ := Option.ne_none_iff_exists'.1 h
  rw [Scalar.key, hoffset]

theorem Scalar.key_dateTime_of_unzoned {t : DateTime} (h : t.time.offset = none) :
    (Scalar.dateTime t).key = .ok (.dateTime t) := by
  rw [Scalar.key, h]

theorem Scalar.key_dateTime_of_zoned {t : DateTime} (h : t.time.offset ≠ none) :
    (Scalar.dateTime t).key = .ok (.instant t.instant t.time.microsecond) := by
  obtain ⟨offset, hoffset⟩ := Option.ne_none_iff_exists'.1 h
  rw [Scalar.key, hoffset]

theorem Value.exists_of_keys_cons {value : Value} {rest : List Value} {keys : List Key}
    (h : Value.keys (value :: rest) = .ok keys) :
    ∃ key others, value.key = .ok key ∧ Value.keys rest = .ok others ∧ keys = key :: others := by
  rw [Value.keys] at h
  obtain ⟨key, hkey, hbehind⟩ := exists_of_bind_eq_ok h
  obtain ⟨others, hothers, hkeys⟩ := exists_of_bind_eq_ok hbehind
  exact ⟨key, others, hkey, hothers, (Except.ok.inj hkeys).symm⟩

mutual

theorem Value.SameKey.of_same {ka kb : Key} {a b : Value} (ha : ka.Describes a)
    (hb : kb.Describes b) (h : ka.same kb = true) : a.SameKey b := by
  cases ha with
  | null =>
      cases hb with
      | null => exact .null
      | _ => cases h
  | number hs he =>
      cases hb with
      | number ht hf =>
          obtain rfl := of_decide_eq_true h
          exact .number hs ht
      | _ => cases h
  | infinity hs =>
      cases hb with
      | infinity ht =>
          obtain rfl := of_decide_eq_true h
          exact .number hs ht
      | _ => cases h
  | text s =>
      cases hb with
      | text t =>
          obtain rfl := of_decide_eq_true h
          exact .text s
      | _ => cases h
  | bytes octets =>
      cases hb with
      | bytes others =>
          obtain rfl := of_decide_eq_true h
          exact .bytes octets
      | _ => cases h
  | date d =>
      cases hb with
      | date e =>
          obtain rfl := of_decide_eq_true h
          exact .date d
      | _ => cases h
  | time hoffset =>
      cases hb with
      | time hother =>
          obtain rfl := of_decide_eq_true h
          exact .time (.unzoned hoffset)
      | _ => cases h
  | universalTime hoffset =>
      cases hb with
      | universalTime hother =>
          obtain ⟨hseconds, hmicroseconds⟩ := (Bool.and_eq_true _ _).mp h
          exact .time (.zoned hoffset hother (of_decide_eq_true hseconds)
            (of_decide_eq_true hmicroseconds))
      | _ => cases h
  | dateTime hoffset =>
      cases hb with
      | dateTime hother =>
          obtain rfl := of_decide_eq_true h
          exact .dateTime (.unzoned hoffset)
      | _ => cases h
  | instant hoffset =>
      cases hb with
      | instant hother =>
          obtain ⟨hseconds, hmicroseconds⟩ := (Bool.and_eq_true _ _).mp h
          exact .dateTime (.zoned hoffset hother (of_decide_eq_true hseconds)
            (of_decide_eq_true hmicroseconds))
      | _ => cases h
  | uuid u =>
      cases hb with
      | uuid v =>
          obtain rfl := of_decide_eq_true h
          exact .uuid u
      | _ => cases h
  | skip =>
      cases hb with
      | skip => exact .skip
      | _ => cases h
  | tuple has =>
      cases hb with
      | tuple hbs => exact .tuple (Value.SameKeys.of_sameAll has hbs h)
      | _ => cases h
  | nan hnan => cases h
  | foreign => cases h

theorem Value.SameKeys.of_sameAll {kas kbs : List Key} {as bs : List Value}
    (ha : Value.keys as = .ok kas) (hb : Value.keys bs = .ok kbs)
    (h : Key.sameAll kas kbs = true) : Value.SameKeys as bs := by
  match as, bs with
  | [], [] => exact .nil
  | [], b :: bs =>
      obtain rfl := Except.ok.inj ha
      obtain ⟨kb, kbs, -, -, rfl⟩ := Value.exists_of_keys_cons hb
      cases h
  | a :: as, [] =>
      obtain rfl := Except.ok.inj hb
      obtain ⟨ka, kas, -, -, rfl⟩ := Value.exists_of_keys_cons ha
      cases h
  | a :: as, b :: bs =>
      obtain ⟨ka, kas, hka, hkas, rfl⟩ := Value.exists_of_keys_cons ha
      obtain ⟨kb, kbs, hkb, hkbs, rfl⟩ := Value.exists_of_keys_cons hb
      obtain ⟨hfirst, hrest⟩ := (Bool.and_eq_true _ _).mp h
      exact .cons (.of_same (Value.describes_of_key hka) (Value.describes_of_key hkb) hfirst)
        (.of_sameAll hkas hkbs hrest)

end

mutual

theorem Key.same_of_sameKey {ka kb : Key} {a b : Value} (ha : a.key = .ok ka)
    (hb : b.key = .ok kb) (h : a.SameKey b) : ka.same kb = true := by
  cases h with
  | null | skip =>
      obtain rfl := Except.ok.inj ha
      obtain rfl := Except.ok.inj hb
      rfl
  | text | date | uuid | bytes =>
      obtain rfl := Except.ok.inj ha
      obtain rfl := Except.ok.inj hb
      exact decide_eq_true rfl
  | number hs ht =>
      rcases (Scalar.describes_of_key ha).of_magnitude? hs with
        ⟨e, rfl, rfl, he⟩ | ⟨negative, rfl, rfl⟩
      · rcases (Scalar.describes_of_key hb).of_magnitude? ht with
          ⟨f, rfl, hm, hf⟩ | ⟨other, rfl, hm⟩
        · exact decide_eq_true ((he.toRat_inj hf).1 (Magnitude.finite.inj hm))
        · cases hm
      · rcases (Scalar.describes_of_key hb).of_magnitude? ht with
          ⟨f, rfl, hm, hf⟩ | ⟨other, rfl, hm⟩
        · cases hm
        · exact decide_eq_true (Magnitude.infinite.inj hm)
  | time h =>
      cases h with
      | unzoned hoffset =>
          obtain rfl := Except.ok.inj ((Scalar.key_time_of_unzoned hoffset).symm.trans ha)
          obtain rfl := Except.ok.inj ((Scalar.key_time_of_unzoned hoffset).symm.trans hb)
          exact decide_eq_true rfl
      | zoned hoffset hother hseconds hmicroseconds =>
          obtain rfl := Except.ok.inj ((Scalar.key_time_of_zoned hoffset).symm.trans ha)
          obtain rfl := Except.ok.inj ((Scalar.key_time_of_zoned hother).symm.trans hb)
          exact (Bool.and_eq_true _ _).mpr
            ⟨decide_eq_true hseconds, decide_eq_true hmicroseconds⟩
  | dateTime h =>
      cases h with
      | unzoned hoffset =>
          obtain rfl := Except.ok.inj ((Scalar.key_dateTime_of_unzoned hoffset).symm.trans ha)
          obtain rfl := Except.ok.inj ((Scalar.key_dateTime_of_unzoned hoffset).symm.trans hb)
          exact decide_eq_true rfl
      | zoned hoffset hother hseconds hmicroseconds =>
          obtain rfl := Except.ok.inj ((Scalar.key_dateTime_of_zoned hoffset).symm.trans ha)
          obtain rfl := Except.ok.inj ((Scalar.key_dateTime_of_zoned hother).symm.trans hb)
          exact (Bool.and_eq_true _ _).mpr
            ⟨decide_eq_true hseconds, decide_eq_true hmicroseconds⟩
  | tuple hitems =>
      cases Value.describes_of_key ha with
      | tuple has =>
          cases Value.describes_of_key hb with
          | tuple hbs => exact Key.sameAll_of_sameKeys has hbs hitems

theorem Key.sameAll_of_sameKeys {kas kbs : List Key} {as bs : List Value}
    (ha : Value.keys as = .ok kas) (hb : Value.keys bs = .ok kbs) (h : Value.SameKeys as bs) :
    Key.sameAll kas kbs = true := by
  cases h with
  | nil =>
      obtain rfl := Except.ok.inj ha
      obtain rfl := Except.ok.inj hb
      rfl
  | cons hfirst hrest =>
      obtain ⟨ka, kas, hka, hkas, rfl⟩ := Value.exists_of_keys_cons ha
      obtain ⟨kb, kbs, hkb, hkbs, rfl⟩ := Value.exists_of_keys_cons hb
      exact (Bool.and_eq_true _ _).mpr ⟨Key.same_of_sameKey hka hkb hfirst,
        Key.sameAll_of_sameKeys hkas hkbs hrest⟩

end

/-- **Two keys are the same exactly when their values are equal.** -/
theorem Key.same_iff {ka kb : Key} {a b : Value} (ha : a.key = .ok ka) (hb : b.key = .ok kb) :
    ka.same kb = true ↔ a.SameKey b :=
  ⟨.of_same (Value.describes_of_key ha) (Value.describes_of_key hb), Key.same_of_sameKey ha hb⟩

/-! ## Symmetry and transitivity -/

mutual

/-- There is one form for each key, so the same keys have the same form. -/
theorem Key.eq_of_same {a b : Key} (h : a.same b = true) : a = b := by
  unfold Key.same at h
  split at h
  case h_1 | h_12 => rfl
  case h_8 | h_10 =>
    obtain ⟨hfirst, hsecond⟩ := (Bool.and_eq_true _ _).mp h
    rw [of_decide_eq_true hfirst, of_decide_eq_true hsecond]
  case h_13 => rw [Key.eq_of_sameAll h]
  case h_14 => cases h
  all_goals rw [of_decide_eq_true h]

theorem Key.eq_of_sameAll {as bs : List Key} (h : Key.sameAll as bs = true) : as = bs := by
  match as, bs with
  | [], [] => rfl
  | [], b :: bs => cases h
  | a :: as, [] => cases h
  | a :: as, b :: bs =>
      obtain ⟨hfirst, hrest⟩ := (Bool.and_eq_true _ _).mp h
      rw [Key.eq_of_same hfirst, Key.eq_of_sameAll hrest]

end

namespace Label

variable {a b c : Label}

theorem same_symm (h : a.same b = true) : b.same a = true := by
  have hkeys : a.key = b.key := Key.eq_of_same h
  unfold same at h ⊢
  rwa [hkeys] at h ⊢

theorem same_trans (hab : a.same b = true) (hbc : b.same c = true) : a.same c = true := by
  have hkeys : a.key = b.key := Key.eq_of_same hab
  unfold same at hbc ⊢
  rwa [hkeys]

end Label

end SqlTemplate
