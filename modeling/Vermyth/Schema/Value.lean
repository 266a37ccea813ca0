import Mathlib.Data.List.Forall2
import Mathlib.Data.List.Infix
import Mathlib.Data.Rat.Defs
import Mathlib.Algebra.Order.Ring.Unbundled.Rat
import Vermyth.Foundation.Raises

set_option autoImplicit false

namespace Vermyth

-- Exceptions as the code raises them. KeyError keeps the key, whose repr is
-- the text Python prints for it.
inductive PyError where
  | valueError (text : String)
  | typeError (text : String)
  | keyError (key : String)
  | runtimeError (text : String)
  | overflowError (text : String)
  | attributeError (text : String)
  | indexError (text : String)
  | fileNotFoundError (text : String)
  -- Any other class of exception.
  | other (text : String)
deriving DecidableEq, Repr

def PyError.text : PyError → String
  | .valueError text => text
  | .typeError text => text
  | .keyError key => "'" ++ key ++ "'"
  | .runtimeError text => text
  | .overflowError text => text
  | .attributeError text => text
  | .indexError text => text
  | .fileNotFoundError text => text
  | .other text => text

theorem bind_ok {ε α β : Type} (action : Except ε α) (next : α → Except ε β) (result : β) :
    (action >>= next) = .ok result ↔ ∃ value, action = .ok value ∧ next value = .ok result := by
  cases action with
  | error raised => simp [bind, Except.bind]
  | ok value => simp [bind, Except.bind]

theorem is_ok {ε α : Type} (action : Except ε α) (ok : action.isOk = true) : ∃ value, action = .ok value := by
  cases action with
  | error raised => contradiction
  | ok value => exact ⟨value, rfl⟩

theorem map_m_pairs {ε α β : Type} (action : α → Except ε β) (items : List α) (values : List β)
    (mapped : items.mapM action = .ok values) : List.Forall₂ (fun item value => action item = .ok value) items values := by
  induction items generalizing values with
  | nil =>
      obtain rfl := Except.ok.inj mapped
      exact .nil
  | cons first rest ih =>
      rw [List.mapM_cons, bind_ok] at mapped
      obtain ⟨value, made, mapped⟩ := mapped
      obtain ⟨others, later, mapped⟩ := (bind_ok _ _ _).mp mapped
      obtain rfl := Except.ok.inj mapped
      exact .cons made (ih others later)

theorem pairs_of_left {α β : Type} {R : α → β → Prop} {items : List α} {values : List β}
    (each : List.Forall₂ R items values) : ∀ item ∈ items, ∃ value ∈ values, R item value := by
  induction each with
  | nil => exact fun item member => absurd member List.not_mem_nil
  | cons own others ih =>
      rw [List.forall_mem_cons]
      refine ⟨⟨_, List.mem_cons_self, own⟩, ?_⟩
      intro item member
      obtain ⟨value, isValue, related⟩ := ih item member
      exact ⟨value, List.mem_cons_of_mem _ isValue, related⟩

theorem pairs_of_right {α β : Type} {R : α → β → Prop} {items : List α} {values : List β}
    (each : List.Forall₂ R items values) : ∀ value ∈ values, ∃ item ∈ items, R item value :=
  pairs_of_left each.flip

theorem map_m_mem {ε α β : Type} (action : α → Except ε β) (items : List α) (values : List β)
    (mapped : items.mapM action = .ok values) : ∀ value ∈ values, ∃ item ∈ items, action item = .ok value :=
  pairs_of_right (map_m_pairs action items values mapped)

theorem map_m_each {ε α β : Type} (action : α → Except ε β) (items : List α) (values : List β)
    (mapped : items.mapM action = .ok values) : ∀ item ∈ items, ∃ value ∈ values, action item = .ok value :=
  pairs_of_left (map_m_pairs action items values mapped)

theorem map_m_total {ε α β : Type} (action : α → Except ε β) (items : List α)
    (each : ∀ item ∈ items, ∃ value, action item = .ok value) : ∃ values, items.mapM action = .ok values := by
  induction items with
  | nil => exact ⟨[], rfl⟩
  | cons first rest ih =>
      obtain ⟨⟨value, made⟩, others⟩ := List.forall_mem_cons.mp each
      obtain ⟨values, later⟩ := ih others
      exact ⟨value :: values, by rw [List.mapM_cons, made, later]; rfl⟩

theorem map_m_ok {ε α β : Type} (action : α → Except ε β) (value : α → β) (items : List α)
    (each : ∀ item ∈ items, action item = .ok (value item)) : items.mapM action = .ok (items.map value) := by
  induction items with
  | nil => rfl
  | cons item rest ih =>
      have later := ih fun other member => each other (List.mem_cons_of_mem item member)
      rw [List.mapM_cons, each item List.mem_cons_self, later]
      rfl

-- SQLite stores integers in 64 bits; binding a wider one is an OverflowError.
def sqlInteger (value : Int) : Except PyError Int :=
  if -9223372036854775808 ≤ value ∧ value ≤ 9223372036854775807 then .ok value
  else .error (.overflowError "Python int too large to convert to SQLite INTEGER")

-- A parsed JSON document. Every finite double is a rational, and Python
-- compares ints and floats exactly, so numbers carry their exact value.
inductive Json where
  | null
  | bool (value : Bool)
  | int (value : Int)
  | float (value : ℚ)
  | str (value : String)
  | arr (items : List Json)
  | obj (fields : List (String × Json))
deriving Repr

-- A bool is an int in Python arithmetic and comparison.
def Json.number? : Json → Option ℚ
  | .bool value => some (if value then 1 else 0)
  | .int value => some value
  | .float value => some value
  | _ => none

def Json.text? : Json → Option String
  | .str value => some value
  | _ => none

def Json.typeName : Json → String
  | .null => "NoneType"
  | .bool _ => "bool"
  | .int _ => "int"
  | .float _ => "float"
  | .str _ => "str"
  | .arr _ => "list"
  | .obj _ => "dict"

-- bool(value): None, zero and empty containers are false.
def Json.truthy : Json → Bool
  | .null => false
  | .bool value => value
  | .int value => value != 0
  | .float value => value != 0
  | .str value => value != ""
  | .arr items => !items.isEmpty
  | .obj fields => !fields.isEmpty

def digitZeros : List Nat :=
  [0x30, 0x660, 0x6f0, 0x7c0, 0x966, 0x9e6, 0xa66, 0xae6, 0xb66, 0xbe6, 0xc66, 0xce6, 0xd66, 0xde6, 0xe50, 0xed0,
    0xf20, 0x1040, 0x1090, 0x17e0, 0x1810, 0x1946, 0x19d0, 0x1a80, 0x1a90, 0x1b50, 0x1bb0, 0x1c40, 0x1c50, 0xa620,
    0xa8d0, 0xa900, 0xa9d0, 0xa9f0, 0xaa50, 0xabf0, 0xff10, 0x104a0, 0x10d30, 0x11066, 0x110f0, 0x11136, 0x111d0,
    0x112f0, 0x11450, 0x114d0, 0x11650, 0x116c0, 0x11730, 0x118e0, 0x11950, 0x11c50, 0x11d50, 0x11da0, 0x16a60,
    0x16ac0, 0x16b50, 0x1d7ce, 0x1d7d8, 0x1d7e2, 0x1d7ec, 0x1d7f6, 0x1e140, 0x1e2f0, 0x1e950, 0x1fbf0]

def decimal (c : Char) : Option Nat :=
  (digitZeros.find? fun first => first ≤ c.toNat && c.toNat ≤ first + 9).map fun first => c.toNat - first

def readDigits : List Char → Nat → Option Nat
  | [], value => some value
  | '_' :: digit :: rest, value => (decimal digit).bind fun own => readDigits rest (10 * value + own)
  | digit :: rest, value => (decimal digit).bind fun own => readDigits rest (10 * value + own)

def readNatural : List Char → Option Nat
  | [] => none
  | digit :: rest => if (decimal digit).isSome then readDigits (digit :: rest) 0 else none

def readInteger : List Char → Option Int
  | '-' :: digits => (readNatural digits).map fun value => -(value : Int)
  | '+' :: digits => (readNatural digits).map Int.ofNat
  | digits => (readNatural digits).map Int.ofNat

-- str.isspace
def pySpace (c : Char) : Bool :=
  c.toNat ∈ [0x20, 0x85, 0xa0, 0x1680, 0x2028, 0x2029, 0x202f, 0x205f, 0x3000] ||
    (9 ≤ c.toNat && c.toNat ≤ 13) || (28 ≤ c.toNat && c.toNat ≤ 31) || (0x2000 ≤ c.toNat && c.toNat ≤ 0x200a)

-- int() leaves the separators 28 to 31, unlike str.strip: int("\x1c1") raises.
def intSpace (c : Char) : Bool := pySpace c && !(28 ≤ c.toNat && c.toNat ≤ 31)

def trimmed (space : Char → Bool) (chars : List Char) : List Char :=
  ((chars.dropWhile space).reverse.dropWhile space).reverse

-- str.strip
def pyStrip (text : String) : String := String.ofList (trimmed pySpace text.toList)

-- int(value)
def pyInt : Json → Except PyError Int
  | .bool value => .ok (if value then 1 else 0)
  | .int value => .ok value
  | .float value => .ok (value.num.tdiv value.den)
  | .str text =>
      let chars := trimmed intSpace text.toList
      match readInteger chars with
      | none => .error (.valueError ("invalid literal for int() with base 10: '" ++ text ++ "'"))
      | some value =>
          let digits := (chars.filter fun c => (decimal c).isSome).length
          if digits ≤ 4300 then .ok value
          else .error (.valueError ("Exceeds the limit (4300 digits) for integer string conversion: value has "
            ++ toString digits ++ " digits; use sys.set_int_max_str_digits() to increase the limit"))
  | other => .error (.typeError
      ("int() argument must be a string, a bytes-like object or a real number, not '" ++ other.typeName ++ "'"))

-- int() of Arabic-Indic digits, of one between a line separator and a
-- no-break space, and of one after a separator that it leaves.
example : (pyInt (.str "\u0661_\u0662"), pyInt (.str "\u20281\u00a0"), (pyInt (.str "\x1c1")).toOption) =
    (.ok 12, .ok 1, none) := by rfl

inductive ScalarType where
  | int
  | bool
  | float
  | str
deriving DecidableEq, Repr

inductive Scalar where
  | int (value : Int)
  | bool (value : Bool)
  | float (value : ℚ)
  | str (value : String)
deriving DecidableEq, Repr

def Scalar.type : Scalar → ScalarType
  | .int _ => .int
  | .bool _ => .bool
  | .float _ => .float
  | .str _ => .str

def Scalar.toJson : Scalar → Json
  | .int value => .int value
  | .bool value => .bool value
  | .float value => .float value
  | .str value => .str value

def Scalar.number? (scalar : Scalar) : Option ℚ := scalar.toJson.number?
def Scalar.typeName (scalar : Scalar) : String := scalar.toJson.typeName

-- got == value, where a missing key reads as None.
def pyEq : Option Scalar → Json → Bool
  | none, .null => true
  | none, _ => false
  | some (.str text), value => value.text? == some text
  | some got, value => got.number?.isSome && got.number? == value.number?

inductive Order where
  | gt
  | gte
  | lt
  | lte
deriving DecidableEq, Repr

def Order.symbol : Order → String
  | .gt => ">"
  | .gte => ">="
  | .lt => "<"
  | .lte => "<="

def Order.holds {α : Type} [LT α] [LE α] [DecidableLT α] [DecidableLE α] : Order → α → α → Bool
  | .gt, a, b => decide (b < a)
  | .gte, a, b => decide (b ≤ a)
  | .lt, a, b => decide (a < b)
  | .lte, a, b => decide (a ≤ b)

def pyOrder (order : Order) (got : Scalar) (value : Json) : Except PyError Bool :=
  match got.number?, value.number?, got, value with
  | some a, some b, _, _ => .ok (order.holds a b)
  | _, _, .str a, .str b => .ok (order.holds a b)
  | _, _, _, _ => .error (.typeError ("'" ++ order.symbol ++ "' not supported between instances of '"
      ++ got.typeName ++ "' and '" ++ value.typeName ++ "'"))

def pyIn (value : Json) : Scalar → Except PyError Bool
  | .str text =>
      match value with
      | .str part => .ok (decide (part.toList <:+: text.toList))
      | other => .error (.typeError
          ("'in <string>' requires string as left operand, not " ++ other.typeName))
  | got => .error (.typeError ("argument of type '" ++ got.typeName ++ "' is not iterable"))

end Vermyth
