import Mathlib
import ChipEight.Proofs.Numeral
import ChipEight.Proofs.Yaml.Given

/-!
# Numbers of keys

The number of a key is handed over as a word of 64 bits and becomes a key by way of its
lowest byte.  Nothing is lost on this way: what becomes of a word depends on the number
that it stands for and on nothing else (`Key.ofNumber_eq`).  So no word is taken for a key
because its lowest byte, or the word read with a sign, would be the number of one.

In a list, the first number that is no key is reported with its place, and what comes
behind it is not looked at (`Key.exists_fault_itemsFrom`).
-/

namespace ChipEight

open Yaml

namespace Key

/-! ## Words -/

/-- A number that a key has. -/
def IsNumber (value : Int) : Prop :=
  0 ≤ value ∧ value ≤ 15

/-- What becomes of a number, whatever it is written in. -/
def ofInteger (value : Int) : Except DataFault Key :=
  if h : 0 ≤ value ∧ value ≤ 15 then .ok ⟨value.toNat, by omega⟩ else .error (outOfRange value)

theorem exists_key_of_isNumber {value : Int} (hvalue : IsNumber value) :
    ∃ key : Key, (key.val : Int) = value :=
  ⟨⟨value.toNat, by unfold IsNumber at hvalue; omega⟩, Int.toNat_of_nonneg hvalue.1⟩

theorem isNumber_val (key : Key) : IsNumber key.val := by
  have hkey := key.isLt
  unfold IsNumber
  omega

theorem ofInteger_eq_ok_iff (value : Int) (key : Key) :
    ofInteger value = .ok key ↔ (key.val : Int) = value := by
  have hkey := key.isLt
  unfold ofInteger
  split
  next hnumber =>
    rw [Except.ok.injEq, Fin.ext_iff]
    dsimp only
    omega
  next hnumber =>
    simp only [reduceCtorEq, false_iff]
    omega

theorem ofInteger_of_not_isNumber {value : Int} (hvalue : ¬ IsNumber value) :
    ofInteger value = .error (outOfRange value) :=
  dif_neg hvalue

theorem ofNat?_toNat (value : Int) (hvalue : 0 ≤ value) :
    (match ofNat? value.toNat with
      | some key => Except.ok key
      | none => .error (outOfRange value)) = ofInteger value := by
  unfold ofNat? ofInteger
  by_cases hsmall : value ≤ 15
  · rw [dif_pos (by omega), dif_pos ⟨hvalue, hsmall⟩]
  · rw [dif_neg (by omega), dif_neg (by omega)]

/-- A word that is the number of a byte keeps it when it is cut down to its lowest byte. -/
theorem toNat_lowByte {word : Int64} (hlow : 0 ≤ word.toInt) (hhigh : word.toInt ≤ 255) :
    word.toUInt64.toUInt8.toNat = word.toInt.toNat := by
  have hsign : 0 ≤ word := Int64.le_iff_toInt_le.mpr hlow
  rw [UInt64.toNat_toUInt8, Int64.toNat_toUInt64_of_le hsign, Int64.toNatClampNeg]
  omega

theorem ofSigned_eq (word : Int64) : ofSigned word = ofInteger word.toInt := by
  have hzero : (0 : Int64).toInt = 0 := rfl
  have hlast : (255 : Int64).toInt = 255 := rfl
  simp only [ofSigned, Bool.or_eq_true, decide_eq_true_eq, Int64.lt_iff_toInt_lt, hzero, hlast]
  split
  next houtside => rw [ofInteger, dif_neg (by omega)]
  next hinside =>
    rw [toNat_lowByte (by omega) (by omega)]
    exact ofNat?_toNat word.toInt (by omega)

/-- A word without a sign that is the number of a byte is the same number with a sign. -/
theorem toInt_toInt64 {word : UInt64} (hword : word.toNat ≤ 255) :
    word.toInt64.toInt = word.toNat := by
  rw [← UInt64.ofNat_toNat (x := word), UInt64.toInt64_ofNat', Int64.toInt_ofNat_of_lt (by omega),
    UInt64.ofNat_toNat]

theorem ofUnsigned_eq (word : UInt64) : ofUnsigned word = ofInteger word.toNat := by
  have hlast : (255 : UInt64).toNat = 255 := rfl
  simp only [ofUnsigned, UInt64.lt_iff_toNat_lt, hlast]
  split
  next houtside => rw [ofInteger, dif_neg (by omega)]
  next hinside => rw [ofSigned_eq, toInt_toInt64 (by omega)]

/-- What becomes of a word is decided by its number alone. -/
theorem ofNumber_eq (number : WholeNumber) : ofNumber number = ofInteger number.toInt := by
  cases number with
  | signed word => exact ofSigned_eq word
  | unsigned word => exact ofUnsigned_eq word

/-- A fault quotes a number, and says that it is no key. -/
def Reports (fault : DataFault) (value : Int) : Prop :=
  fault.message = "invalid value: integer `" ++ toString value ++
    "`, expected keycode must be in range 0 <= keycode < 16"

theorem reports_outOfRange (value : Int) : Reports (outOfRange value) value := by
  have hnumber : "invalid value: integer `" = "invalid value: " ++ ("integer " ++ "`") := rfl
  have hrange : "`, expected keycode must be in range 0 <= keycode < 16" =
      "`" ++ (", expected " ++ rangeMessage) := rfl
  have hmessage : (outOfRange value).message = "invalid value: " ++ ("integer " ++
      ("`" ++ Numeral.signedDecimal value ++ "`")) ++ ", expected " ++ rangeMessage := rfl
  rw [Reports, hmessage, Numeral.signedDecimal_eq_toString, hnumber, hrange]
  simp only [String.append_assoc]

/-! ## Places -/

/-- A number that fits into a word with a sign. -/
def IsSigned (value : Int) : Prop :=
  -2 ^ 63 ≤ value ∧ value < 2 ^ 63

theorem IsNumber.isSigned {value : Int} (hvalue : IsNumber value) : IsSigned value := by
  unfold IsNumber at hvalue
  unfold IsSigned
  omega

section Places

variable (place : Place)

theorem takes_integer (wanted : String) :
    Takes place.document.referenceLimit (place.integer wanted) place.node.references
      fun number => ∃ value, place.document.IsInteger place.node value ∧ IsSigned value ∧
        number = .signed (Int64.ofInt value) := by
  refine (place.takes_written "int" wanted _).congr fun number => ?_
  have hbound : ((1 <<< 63 : Nat) : Int) = 2 ^ 63 := rfl
  simp only [Document.IsInteger, Document.Writes, Option.map_eq_some_iff,
    Option.filter_eq_some_iff, Bool.and_eq_true, decide_eq_true_eq, hbound]
  constructor
  · rintro ⟨scalar, hresolve, hmay, value, ⟨hread, hsigned⟩, rfl⟩
    exact ⟨value, ⟨scalar, hresolve, hmay, hread⟩, hsigned, rfl⟩
  · rintro ⟨value, ⟨scalar, hresolve, hmay, hread⟩, hsigned, rfl⟩
    exact ⟨scalar, hresolve, hmay, value, ⟨hread, hsigned⟩, rfl⟩

/-- A node is the number of a key. -/
def IsWritten (document : Document) (node : Node) (key : Key) : Prop :=
  document.IsInteger node key.val

/-- A place is read as the key whose number it holds. -/
theorem takes_read :
    Takes place.document.referenceLimit (Key.read place) place.node.references
      (IsWritten place.document place.node) := by
  unfold Key.read
  rw [← Nat.add_zero place.node.references]
  refine ((takes_integer place _).bind (fun number key => (key.val : Int) = number.toInt)
    fun number _ => ?_).congr fun key => ?_
  · have hkeys (key : Key) : ofNumber number = .ok key ↔ (key.val : Int) = number.toInt := by
      rw [ofNumber_eq, ofInteger_eq_ok_iff]
    simp only [← hkeys]
    split
    next fault hnumber =>
      refine (takes_throw _ 0).congr fun key => ?_
      rw [hnumber]
      exact ⟨False.elim, fun hok => nomatch hok⟩
    next key hnumber =>
      refine (takes_pure key).congr fun other => ?_
      rw [hnumber, Except.ok.injEq, eq_comm]
  have hkey : IsSigned key.val := IsNumber.isSigned ⟨by omega, by omega⟩
  constructor
  · rintro ⟨number, ⟨value, hvalue, hsigned, rfl⟩, hnumber⟩
    rw [WholeNumber.toInt, Int64.toInt_ofInt_of_le hsigned.1 hsigned.2] at hnumber
    rw [IsWritten, hnumber]
    exact hvalue
  · intro hvalue
    refine ⟨_, ⟨key.val, hvalue, hkey, rfl⟩, ?_⟩
    rw [WholeNumber.toInt, Int64.toInt_ofInt_of_le hkey.1 hkey.2]

/-- A number that no word with a sign holds is refused before a key is looked for. -/
theorem run_integer_of_not_isSigned {value : Int} (hsigned : ¬ IsSigned value)
    (hvalue : place.document.IsInteger place.node value) (wanted : String) {before : Nat}
    (hlimit : before + place.node.references ≤ place.document.referenceLimit) :
    ∃ fault, (place.integer wanted).run before = .error (.data place.path fault) := by
  obtain ⟨scalar, hresolve, -, hread⟩ := hvalue
  refine place.run_written_of_none hresolve ?_ wanted hlimit
  have hfits : ¬ (decide (-((1 <<< 63 : Nat) : Int) ≤ value) &&
      decide (value < (1 <<< 63 : Nat))) = true := by
    rw [Bool.and_eq_true, decide_eq_true_eq, decide_eq_true_eq]
    exact hsigned
  dsimp only at hread ⊢
  rw [hread, Option.filter_some, if_neg hfits, Option.map_none, ite_self]

/-- A place with a number that is no key's is refused with its name, and the number is
quoted. -/
theorem exists_fault_read {value : Int} (hnumber : ¬ IsNumber value)
    (hvalue : place.document.IsInteger place.node value) {before : Nat}
    (hlimit : before + place.node.references ≤ place.document.referenceLimit) :
    ∃ fault, (Key.read place).run before = .error (.data place.path fault) ∧
      (IsSigned value → Reports fault value) := by
  by_cases hsigned : IsSigned value
  · refine ⟨outOfRange value, ?_, fun _ => reports_outOfRange value⟩
    have hinteger := (takes_integer place "an integer between 0 and 15" before (by omega)
      (.signed (Int64.ofInt value)) _).mpr ⟨⟨value, hvalue, hsigned, rfl⟩, rfl, hlimit⟩
    have hfault : ofNumber (.signed (Int64.ofInt value)) = .error (outOfRange value) := by
      rw [ofNumber_eq, WholeNumber.toInt, Int64.toInt_ofInt_of_le hsigned.1 hsigned.2,
        ofInteger_of_not_isNumber hnumber]
    rw [Key.read, run_bind_of_ok hinteger]
    simp only [hfault]
    rfl
  · obtain ⟨fault, hinteger⟩ := run_integer_of_not_isSigned place hsigned hvalue
      "an integer between 0 and 15" hlimit
    refine ⟨fault, ?_, fun hfits => (hsigned hfits).elim⟩
    rw [Key.read, run_bind_of_error hinteger]

end Places

/-! ## Lists -/

/-- The first number in a list that is no key's is refused with its place in the list. -/
theorem exists_fault_itemsFrom (place : Place) {earlier later : List Int} {value : Int}
    (hearlier : ∀ number ∈ earlier, IsNumber number) (hnumber : ¬ IsNumber value)
    {nodes : List Node}
    (hnodes : List.Forall₂ place.document.IsInteger nodes (earlier ++ value :: later))
    (position : Nat) {before : Nat}
    (hlimit : before + (nodes.map Node.references).sum ≤ place.document.referenceLimit) :
    ∃ fault, (place.itemsFrom Key.read position nodes).run before =
        .error (.data (place.path ++ [.item (position + earlier.length)]) fault) ∧
      (IsSigned value → Reports fault value) := by
  induction earlier generalizing nodes position before with
  | nil =>
      obtain ⟨node, rest, hvalue, -, rfl⟩ := List.forall₂_cons_right_iff.mp hnodes
      rw [List.map_cons, List.sum_cons] at hlimit
      have hnode : before + node.references ≤ place.document.referenceLimit := by omega
      obtain ⟨fault, hread, hreports⟩ :=
        exists_fault_read (place.move (.item position) node) hnumber hvalue hnode
      refine ⟨fault, ?_, hreports⟩
      rw [Place.itemsFrom, run_bind_of_error hread]
      rfl
  | cons number earlier ih =>
      obtain ⟨node, rest, hvalue, hrest, rfl⟩ := List.forall₂_cons_right_iff.mp hnodes
      rw [List.map_cons, List.sum_cons] at hlimit
      have hnode : before + node.references ≤ place.document.referenceLimit := by omega
      -- The first number is that of a key, so the fault is met in the rest of the list.
      obtain ⟨hfirst, hothers⟩ := List.forall_mem_cons.mp hearlier
      obtain ⟨key, rfl⟩ := exists_key_of_isNumber hfirst
      have hread : (Key.read (place.move (.item position) node)).run before =
          .ok (key, before + node.references) :=
        (takes_read (place.move (.item position) node) before (Nat.le_of_add_right_le hnode)
          key _).mpr ⟨hvalue, rfl, hnode⟩
      have hbefore : before + node.references + (rest.map Node.references).sum ≤
          place.document.referenceLimit := by omega
      obtain ⟨fault, hrun, hreports⟩ := ih hothers hrest (position + 1) hbefore
      refine ⟨fault, ?_, hreports⟩
      have hposition : position + 1 + earlier.length =
          position + ((key.val : Int) :: earlier).length := by
        rw [List.length_cons]
        omega
      rw [Place.itemsFrom, run_bind_of_ok hread, run_bind_of_error hrun, hposition]

variable (document : Document)

/-- What is read as keys out of a document that is a list of numbers. -/
structure ReadsKeys (values : List Int) : Prop where
  /-- The keys are those with the numbers in the list. -/
  keys : ∀ keys, readList document = .ok keys ↔ keys.map (fun key => (key.val : Int)) = values
  accepted : (∃ keys, readList document = .ok keys) ↔ ∀ value ∈ values, IsNumber value
  /-- The first number that is no key's is reported with its position. -/
  first : ∀ earlier value later, values = earlier ++ value :: later →
    (∀ number ∈ earlier, IsNumber number) → ¬ IsNumber value →
      ∃ fault, readList document = .error (.data [.item earlier.length] fault) ∧
        (IsSigned value → Reports fault value)

/-- In a list of numbers that are all keys' there are the numbers of a list of keys. -/
theorem exists_keys_iff (values : List Int) :
    (∃ keys : List Key, keys.map (fun key => (key.val : Int)) = values) ↔
      ∀ value ∈ values, IsNumber value := by
  constructor
  · rintro ⟨keys, rfl⟩
    exact List.forall_mem_map.mpr fun key _ => isNumber_val key
  · intro hvalues
    have hrange : values ∈ Set.range (List.map fun key : Key => (key.val : Int)) := by
      rw [Set.range_list_map]
      exact fun value hvalue => exists_key_of_isNumber (hvalues value hvalue)
    exact hrange

theorem forall₂_isWritten_iff {nodes : List Node} {values : List Int}
    (hnodes : List.Forall₂ document.IsInteger nodes values) (keys : List Key) :
    List.Forall₂ (IsWritten document) nodes keys ↔
      keys.map (fun key => (key.val : Int)) = values := by
  unfold IsWritten
  rw [← List.forall₂_map_right_iff (f := fun key : Key => (key.val : Int))]
  constructor
  · intro hkeys
    exact List.right_unique_forall₂' (fun _ _ _ hfirst hsecond => hfirst.unique hsecond)
      hkeys hnodes
  · rintro rfl
    exact hnodes

theorem readsKeys {nodes : List Node} {values : List Int}
    (hroot : document.root = some (.sequence nodes)) (hfault : document.fault = none)
    (hnodes : List.Forall₂ document.IsInteger nodes values)
    (hlimit : (nodes.map Node.references).sum ≤ document.referenceLimit) :
    ReadsKeys document values := by
  have hnode : document.place.node = .sequence nodes := congrArg (·.getD .absent) hroot
  have hkeys (keys : List Key) : readList document = .ok keys ↔
      keys.map (fun key => (key.val : Int)) = values := by
    have htakes : Takes document.referenceLimit (document.place.list Key.read)
        (document.listReferences Node.references document.place.node)
        (document.IsList (IsWritten document) document.place.node) :=
      document.place.takes_list fun position node =>
        takes_read (document.place.move (.item position) node)
    have hcount : document.listReferences Node.references document.place.node ≤
        document.referenceLimit := by
      rw [hnode]
      exact (Nat.zero_add _).trans_le hlimit
    rw [readList, Document.decode_eq_ok_iff (·.list Key.read) hfault htakes hcount, hnode,
      ← forall₂_isWritten_iff document hnodes]
    simp [Document.IsList, Document.resolve]
  refine ⟨hkeys, ?_, ?_⟩
  · simp only [hkeys]
    exact exists_keys_iff values
  · rintro earlier value later rfl hearlier hnumber
    obtain ⟨fault, hrun, hreports⟩ := exists_fault_itemsFrom document.place hearlier hnumber
      hnodes 0 ((Nat.zero_add _).trans_le hlimit)
    have hlist : document.place.list Key.read = document.place.itemsFrom Key.read 0 nodes := by
      simp only [Place.list, Place.follow, hnode, pure_bind]
    refine ⟨fault, ?_, hreports⟩
    rw [readList, Document.decode, hlist, hrun, Nat.zero_add]
    rfl

/-- What becomes of a number that is handed over. -/
structure TakesNumber (number : WholeNumber) : Prop where
  key : ∀ key, ofNumber number = .ok key ↔ (key.val : Int) = number.toInt
  accepted : (∃ key, ofNumber number = .ok key) ↔ IsNumber number.toInt
  refused : ¬ IsNumber number.toInt →
    ∃ fault, ofNumber number = .error fault ∧ Reports fault number.toInt

theorem takesNumber (number : WholeNumber) : TakesNumber number := by
  have hkey (key : Key) : ofNumber number = .ok key ↔ (key.val : Int) = number.toInt := by
    rw [ofNumber_eq, ofInteger_eq_ok_iff]
  refine ⟨hkey, ⟨?_, ?_⟩, fun hnumber => ⟨outOfRange number.toInt, ?_, reports_outOfRange _⟩⟩
  · rintro ⟨key, hok⟩
    rw [← (hkey key).mp hok]
    exact isNumber_val key
  · intro hnumber
    obtain ⟨key, hvalue⟩ := exists_key_of_isNumber hnumber
    exact ⟨key, (hkey key).mpr hvalue⟩
  · rw [ofNumber_eq, ofInteger_of_not_isNumber hnumber]

/-- No number is cut down to that of a key, neither one that is handed over alone nor one in
a list. -/
theorem keepsNumbers :
    (∀ number, TakesNumber number) ∧
      ∀ (document : Document) (nodes : List Node) (values : List Int),
        document.root = some (.sequence nodes) → document.fault = none →
        List.Forall₂ document.IsInteger nodes values →
        (nodes.map Node.references).sum ≤ document.referenceLimit →
        ReadsKeys document values :=
  ⟨takesNumber, fun document _ _ hroot hfault hnodes hlimit =>
    readsKeys document hroot hfault hnodes hlimit⟩

/-- The third number of a list is no key's, though it ends with the bits of one.  The second
is a reference to the first, and the fourth is not looked at. -/
theorem keepsNumbers_list :
    ∃ fault, readList (.ofText "[&a 15, *a, 256, -1]") = .error (.data [.item 2] fault) ∧
      Reports fault 256 := by
  have hroot : (Document.ofText "[&a 15, *a, 256, -1]").root =
      some (.sequence [.scalar ⟨"15", .plain, none⟩, .alias 0, .scalar ⟨"256", .plain, none⟩,
        .scalar ⟨"-1", .plain, none⟩]) := by cbv
  have htarget : (Document.ofText "[&a 15, *a, 256, -1]").target 0 =
      .scalar ⟨"15", .plain, none⟩ := by cbv
  have hreads := keepsNumbers.2 (.ofText "[&a 15, *a, 256, -1]") _ [15, 15, 256, -1] hroot
    (by cbv)
    (.cons ⟨_, rfl, by decide, by decide +kernel⟩
      (.cons ⟨_, htarget, by decide, by decide +kernel⟩
        (.cons ⟨_, rfl, by decide, by decide +kernel⟩
          (.cons ⟨_, rfl, by decide, by decide +kernel⟩ .nil))))
    (by cbv)
  obtain ⟨fault, herror, hreports⟩ := hreads.first [15, 15] 256 [-1] rfl
    (by simp [IsNumber]) (by simp [IsNumber])
  exact ⟨fault, herror, hreports (by simp [IsSigned])⟩

end Key
end ChipEight
