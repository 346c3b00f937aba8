import TypedQuery.Data.ColumnType
import TypedQuery.Proofs.Steps

/-! Data are written as values and read back. Integers are read exactly if they are in the range of
their type, and between the data of a type and the values that are read as such data nothing is
lost. Truth values are the exception: every number but zero is read as the same one. -/

namespace TypedQuery

open Number

namespace IntegerType

/-- Width in bits. -/
def width : IntegerType → Nat
  | i8 | u8 => 8
  | i16 | u16 => 16
  | i32 | u32 => 32
  | i64 | u64 | usize => 64

def isSigned : IntegerType → Bool
  | i8 | i16 | i32 | i64 => true
  | u8 | u16 | u32 | u64 | usize => false

/-- The numbers of a type: two's complement if it is signed. -/
def Holds (type : IntegerType) (n : Int) : Prop :=
  if type.isSigned then -(weight (type.width - 1) : Int) ≤ n ∧ n < weight (type.width - 1)
  else 0 ≤ n ∧ n < weight type.width

/-- Whether data of the type can be arguments. A value has no room for all numbers of the others. -/
def IsArgument (type : IntegerType) : Prop := type ≠ u64 ∧ type ≠ usize

variable {type : IntegerType} {n : Int}

/-- The numbers of an integer type are those between its least and its greatest one. -/
theorem holds_iff : type.Holds n ↔ type.least ≤ n ∧ n ≤ type.greatest := by
  cases type <;> simp [Holds, isSigned, width, weight, least, greatest] <;> omega

/-- A type that may be sent has no numbers that a value could not hold. -/
theorem IsArgument.toInt_ofInt (h : type.IsArgument) (hn : type.Holds n) :
    (Int64.ofInt n).toInt = n := by
  rw [holds_iff] at hn
  refine Int64.toInt_ofInt_of_le ?_ ?_ <;>
    cases type <;> simp_all [IsArgument, least, greatest] <;> omega

end IntegerType

namespace ColumnType

/-- The data of a column type. -/
inductive Holds : ColumnType → Datum → Prop where
  | integer {type : IntegerType} {n : Int} (h : type.Holds n) : Holds (integer type) (.integer n)
  | bool (b : Bool) : Holds bool (.bool b)
  | f64 (bits : UInt64) : Holds f64 (.real bits)
  | f32 (bits : UInt32) : Holds f32 (.single bits)
  | string (s : String) : Holds string (.text s)
  | bytes (bs : List UInt8) : Holds bytes (.blob bs)
  | absent {type : ColumnType} : Holds (option type) .absent
  | present {type : ColumnType} {d : Datum} (h : Holds type d) : Holds (option type) (.present d)

/-- The types of arguments that are written exactly and cannot be absent. -/
inductive Basic : ColumnType → Prop where
  | integer {type : IntegerType} (h : type.IsArgument) : Basic (integer type)
  | bool : Basic bool
  | string : Basic string
  | bytes : Basic bytes

/-- The types of arguments that are written exactly. An option inside an option is not among them,
because both ways to be absent are NULL. -/
inductive Exact : ColumnType → Prop where
  | basic {type : ColumnType} (h : type.Basic) : Exact type
  | option {type : ColumnType} (h : type.Basic) : Exact (option type)

section Integers

variable {type : IntegerType} {v : Value} {d : Datum} {e : DataError}

/-- A number in the range of its type is read exactly. -/
theorem decode_of_holds {n : Int64} (h : type.Holds n.toInt) :
    (integer type).decode (.integer n) = .ok (.integer n.toInt) := by
  rw [decode, if_pos (IntegerType.holds_iff.mp h)]

/-- A number out of range is refused with the name of the type. -/
theorem decode_of_not_holds {n : Int64} (h : ¬type.Holds n.toInt) :
    (integer type).decode (.integer n) = .error (.outOfRange type.name) := by
  rw [decode, if_neg fun hRange => h (IntegerType.holds_iff.mpr hRange)]

/-- A value of another kind is refused with both names. -/
theorem decode_of_not_integer (h : ∀ n, v ≠ .integer n) :
    (integer type).decode v = .error (.typeMismatch type.name v.typeName) := by
  cases v with
  | integer n => exact absurd rfl (h n)
  | null | real | text | blob => rfl

/-- Every value is a number of the type, another number, or no number. -/
theorem decode_integer_cases (type : IntegerType) (v : Value) :
    (∃ n, v = .integer n ∧ type.Holds n.toInt ∧
      (integer type).decode v = .ok (.integer n.toInt)) ∨
    (∃ n, v = .integer n ∧ ¬type.Holds n.toInt ∧
      (integer type).decode v = .error (.outOfRange type.name)) ∨
    (∀ n, v ≠ .integer n) ∧
      (integer type).decode v = .error (.typeMismatch type.name v.typeName) := by
  cases v with
  | integer n =>
      by_cases hRange : type.Holds n.toInt
      · exact Or.inl ⟨n, rfl, hRange, decode_of_holds hRange⟩
      · exact Or.inr (Or.inl ⟨n, rfl, hRange, decode_of_not_holds hRange⟩)
  | null | real | text | blob => exact Or.inr (Or.inr ⟨nofun, decode_of_not_integer nofun⟩)

/-- Integers are read from integers in range, and from nothing else. -/
theorem decode_integer_eq_ok_iff : (integer type).decode v = .ok d ↔
    ∃ n, v = .integer n ∧ type.Holds n.toInt ∧ d = .integer n.toInt := by
  constructor
  · intro h
    obtain ⟨n, hValue, hRange, hRead⟩ | ⟨n, -, -, hRead⟩ | ⟨-, hRead⟩ :=
      decode_integer_cases type v
    · exact ⟨n, hValue, hRange, Except.ok.inj (h.symm.trans hRead)⟩
    · cases h.symm.trans hRead
    · cases h.symm.trans hRead
  · rintro ⟨n, rfl, hRange, rfl⟩
    exact decode_of_holds hRange

theorem decode_integer_eq_error_iff : (integer type).decode v = .error e ↔
    (∃ n, v = .integer n ∧ ¬type.Holds n.toInt ∧ e = .outOfRange type.name) ∨
      (∀ n, v ≠ .integer n) ∧ e = .typeMismatch type.name v.typeName := by
  constructor
  · intro h
    obtain ⟨n, -, -, hRead⟩ | ⟨n, hValue, hRange, hRead⟩ | ⟨hOther, hRead⟩ :=
      decode_integer_cases type v
    · cases h.symm.trans hRead
    · exact Or.inl ⟨n, hValue, hRange, Except.error.inj (h.symm.trans hRead)⟩
    · exact Or.inr ⟨hOther, Except.error.inj (h.symm.trans hRead)⟩
  · rintro (⟨n, rfl, hRange, rfl⟩ | ⟨hOther, rfl⟩)
    · exact decode_of_not_holds hRange
    · exact decode_of_not_integer hOther

end Integers

variable {type : ColumnType} {v : Value} {d : Datum}

/-- NULL is absent, and every other value is read as the type inside. -/
theorem decode_option_eq_ok_iff : (option type).decode v = .ok d ↔
    v = .null ∧ d = .absent ∨
      v ≠ .null ∧ ∃ inner, type.decode v = .ok inner ∧ d = .present inner := by
  by_cases hNull : v = .null
  · subst hNull
    simp [decode, eq_comm]
  · have hInside : (option type).decode v =
        type.decode v >>= fun inner => pure (.present inner) := by
      cases v with
      | null => exact absurd rfl hNull
      | integer | real | text | blob => rfl
    rw [hInside, bind_eq_ok_iff]
    constructor
    · rintro ⟨inner, hInner, hRead⟩
      exact Or.inr ⟨hNull, inner, hInner, (pure_eq_ok_iff.mp hRead).symm⟩
    · rintro (⟨hSame, -⟩ | ⟨-, inner, hInner, rfl⟩)
      · exact absurd hSame hNull
      · exact ⟨inner, hInner, rfl⟩

/-- What is read is of the type. -/
theorem holds_of_decode (h : type.decode v = .ok d) : type.Holds d := by
  induction type generalizing v d with
  | integer type =>
      obtain ⟨n, -, hRange, rfl⟩ := decode_integer_eq_ok_iff.mp h
      exact .integer hRange
  | bool =>
      cases v <;> cases h
      exact .bool _
  | f64 =>
      obtain ⟨bits, -, hRead⟩ := bind_eq_ok_iff.mp h
      cases hRead
      exact .f64 _
  | f32 =>
      obtain ⟨bits, -, hRead⟩ := bind_eq_ok_iff.mp h
      cases hRead
      exact .f32 _
  | string =>
      cases v <;> cases h
      exact .string _
  | bytes =>
      cases v <;> cases h
      exact .bytes _
  | option type ih =>
      obtain ⟨-, rfl⟩ | ⟨-, inner, hInner, rfl⟩ := decode_option_eq_ok_iff.mp h
      · exact .absent
      · exact .present (ih hInner)

/-- No datum but an absent one is written as NULL. -/
theorem Basic.toValue_ne_null (h : type.Basic) (hd : type.Holds d) : d.toValue ≠ .null := by
  cases h <;> cases hd <;> simp [Datum.toValue]

/-- What is written is read back. -/
theorem Basic.decode_toValue (h : type.Basic) (hd : type.Holds d) :
    type.decode d.toValue = .ok d := by
  cases hd with
  | integer hRange =>
      cases h with
      | integer hArgument =>
          have hNumber := hArgument.toInt_ofInt hRange
          exact decode_integer_eq_ok_iff.mpr ⟨_, rfl, by rwa [hNumber], by rw [hNumber]⟩
  | bool b => cases b <;> rfl
  | string | bytes => rfl
  | f64 | f32 | absent | present => cases h

theorem Exact.decode_toValue (h : type.Exact) (hd : type.Holds d) :
    type.decode d.toValue = .ok d := by
  cases h with
  | basic h => exact h.decode_toValue hd
  | option h =>
      rw [decode_option_eq_ok_iff]
      cases hd with
      | absent => exact Or.inl ⟨rfl, rfl⟩
      | @present _ inner hd =>
          have hValue : inner.present.toValue = inner.toValue := by rw [Datum.toValue]
          rw [hValue]
          exact Or.inr ⟨h.toValue_ne_null hd, inner, h.decode_toValue hd, rfl⟩

/-- What is read is written as it was, unless it is a truth value. -/
theorem Basic.toValue_of_decode (h : type.Basic) (hBool : type ≠ .bool)
    (hRead : type.decode v = .ok d) : d.toValue = v := by
  cases h with
  | integer =>
      obtain ⟨n, rfl, -, rfl⟩ := decode_integer_eq_ok_iff.mp hRead
      rw [Datum.toValue, Int64.ofInt_toInt]
  | bool => exact absurd rfl hBool
  | string | bytes =>
      cases v <;> cases hRead
      rfl

theorem Exact.toValue_of_decode (h : type.Exact) (hBool : type ≠ .bool)
    (hOption : type ≠ .option .bool) (hRead : type.decode v = .ok d) : d.toValue = v := by
  cases h with
  | basic h => exact h.toValue_of_decode hBool hRead
  | option h =>
      obtain ⟨rfl, rfl⟩ | ⟨-, inner, hInner, rfl⟩ := decode_option_eq_ok_iff.mp hRead
      · rfl
      · rw [Datum.toValue]
        exact h.toValue_of_decode (fun hSame => hOption (congrArg _ hSame)) hInner

end ColumnType

open ColumnType in
/-- Writing and reading undo each other. Data of a type that is written exactly are read back as
they were; what is read is of the type, and for all these types but truth values only one value is
read as it. Integers are read exactly if they are in the range of the type, and both ways to fail
are told apart. A nullable type reads NULL and what the type inside reads. A value and its key
determine each other, and only NULL and reals have no key. -/
theorem conversions_exact :
    (∀ type d, Exact type → type.Holds d → type.decode d.toValue = .ok d) ∧
    (∀ type v d, type.decode v = .ok d → type.Holds d ∧
      (Exact type → type ≠ .bool → type ≠ .option .bool →
        d.toValue = v ∧ ∀ w, type.decode w = .ok d → w = v)) ∧
    (∀ type v,
      (∀ d, (integer type).decode v = .ok d ↔
        ∃ n, v = .integer n ∧ type.Holds n.toInt ∧ d = .integer n.toInt) ∧
      ∀ e, (integer type).decode v = .error e ↔
        (∃ n, v = .integer n ∧ ¬type.Holds n.toInt ∧ e = .outOfRange type.name) ∨
          (∀ n, v ≠ .integer n) ∧ e = .typeMismatch type.name v.typeName) ∧
    (∀ type v d, (option type).decode v = .ok d ↔
      v = .null ∧ d = .absent ∨
        v ≠ .null ∧ ∃ inner, type.decode v = .ok inner ∧ d = .present inner) ∧
    (∀ (v : Value) (k : Key), v.toKey = some k ↔ k.toValue = v) ∧
    ∀ v : Value, v.toKey = none ↔ v = .null ∨ ∃ bits, v = .real bits := by
  refine ⟨fun _ _ h hd => h.decode_toValue hd, ?_,
    fun _ _ => ⟨fun _ => decode_integer_eq_ok_iff, fun _ => decode_integer_eq_error_iff⟩,
    fun _ _ _ => decode_option_eq_ok_iff, ?_, ?_⟩
  · intro type v d hRead
    refine ⟨holds_of_decode hRead, fun h hBool hOption => ?_⟩
    have hValue := h.toValue_of_decode hBool hOption hRead
    exact ⟨hValue, fun w hOther => (h.toValue_of_decode hBool hOption hOther).symm.trans hValue⟩
  · refine fun v k => ⟨Value.toValue_of_toKey, ?_⟩
    rintro rfl
    exact k.toKey_toValue
  · intro v
    cases v <;> simp [Value.toKey]

/-- At the limits of two types: the least 64-bit integer, which may be absent, is written and read
back, and the greatest byte is read from one value only. -/
theorem limits_convert_exactly :
    (ColumnType.option (.integer .i64)).decode
          (Datum.present (.integer (-9223372036854775808))).toValue =
        .ok (.present (.integer (-9223372036854775808))) ∧
      (Datum.integer 255).toValue = .integer 255 ∧
      (∀ w, (ColumnType.integer .u8).decode w = .ok (.integer 255) → w = .integer 255) ∧
      (ColumnType.integer .u8).decode (.integer 256) = .error (.outOfRange "u8") := by
  obtain ⟨hWrite, hRead, hIntegers, -⟩ := conversions_exact
  have hByte : (ColumnType.integer .u8).decode (.integer 255) = .ok (.integer 255) :=
    ((hIntegers .u8 _).1 _).mpr ⟨255, rfl, IntegerType.holds_iff.mpr (by decide), rfl⟩
  obtain ⟨hValue, hOnly⟩ := (hRead _ _ _ hByte).2 (.basic (.integer ⟨nofun, nofun⟩)) nofun nofun
  refine ⟨hWrite _ _ (.option (.integer ⟨nofun, nofun⟩)) (.present (.integer ?_)), hValue, hOnly,
    ?_⟩
  · exact IntegerType.holds_iff.mpr (by decide)
  · exact ((hIntegers .u8 _).2 _).mpr
      (Or.inl ⟨256, rfl, fun h => absurd (IntegerType.holds_iff.mp h) (by decide), rfl⟩)

end TypedQuery
