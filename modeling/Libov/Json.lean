/-
# JSON values

The values of the JSON library and the accesses of it that the configuration
code makes: the subscript `j[key]`, the lookup `obj.value(key, default)`, the
conversions `get<T>()` and the iteration over the members of an object.  An
object keeps its members in the order of their keys.

How a number becomes a `float`, a `double` or a text is left to `Numeric`.
-/
import Libov.OrderedMap

namespace Libov

/-- A JSON value. -/
inductive Json where
  | null
  | bool (b : Bool)
  /-- A number written without fraction and exponent. -/
  | int (i : ℤ)
  /-- Any other number. -/
  | float (q : ℚ)
  | str (s : String)
  | arr (xs : List Json)
  | obj (es : List (String × Json))

/-- The exceptions of the JSON library. -/
inductive JsonError where
  /-- A value is not of the type asked for. -/
  | type302
  /-- A subscript with a key on a value that is no object. -/
  | type305
  /-- The key of an iterator that does not walk through an object. -/
  | iterator207
  /-- The text is no JSON. -/
  | parse101
  deriving DecidableEq

/-- How numbers are converted. -/
structure Numeric where
  /-- The `float` nearest to a number. -/
  single : ℚ → ℚ
  /-- The `double` nearest to a number. -/
  double : ℚ → ℚ
  /-- `TASCAR::to_string` of a `double`. -/
  toStr : ℚ → String

/-- Numbers that need no rounding, and the integer part as their text. -/
def Numeric.exact : Numeric := ⟨id, id, fun q => toString ⌊q⌋⟩

namespace Json

/-! ## Members of an object -/

def isNull : Json → Bool
  | null => true
  | _ => false

def isObject : Json → Bool
  | obj _ => true
  | _ => false

def isString : Json → Bool
  | str _ => true
  | _ => false

/-- The elements of an array. -/
def array? : Json → Option (List Json)
  | arr xs => some xs
  | _ => none

/-- The member of an object. -/
def find? (key : String) : Json → Option Json
  | obj es => es.lookup key
  | _ => none

/-- The value of `j[key]`: a missing member and a member of `null` are null; any
other value that is no object has no members. -/
def subscript (j : Json) (key : String) : Except JsonError Json :=
  match j with
  | null => .ok null
  | obj es => .ok ((es.lookup key).getD null)
  | _ => .error .type305

/-- The value of `j[key]` for a `j` that has been subscripted before. -/
def member (j : Json) (key : String) : Json := (j.find? key).getD null

/-- The assignment `j[key] = v`. -/
def set (j : Json) (key : String) (v : Json) : Except JsonError Json :=
  match j with
  | null => .ok (obj [(key, v)])
  | obj es => .ok (obj (OrderedMap.insertEntry key v es))
  | _ => .error .type305

/-- The members in the order of iteration, with `it.key()` and `it.value()` read
for each: a value that is no object has no keys, so only an iteration that makes
no step at all gets through it. -/
def items : Json → Except JsonError (List (String × Json))
  | null => .ok []
  | arr [] => .ok []
  | obj es => .ok es
  | _ => .error .iterator207

/-! ## Conversions -/

/-- The part of a number before the fraction, for conversions to an integer type. -/
def truncate (q : ℚ) : ℤ := Int.tdiv q.num q.den

/-- A number or a flag as a number. -/
def arithmetic : Json → Except JsonError ℚ
  | int i => .ok i
  | float q => .ok q
  | bool b => .ok (if b then 1 else 0)
  | _ => .error .type302

/-- `get<T>()`. -/
class FromJson (T : Type) where
  get : Numeric → Json → Except JsonError T

instance : FromJson Bool where
  get _ j := match j with
    | bool b => .ok b
    | _ => .error .type302

instance : FromJson String where
  get _ j := match j with
    | str s => .ok s
    | _ => .error .type302

/-- `get<float>()`. -/
instance : FromJson ℚ where
  get num j := num.single <$> j.arithmetic

/-- `get<int>()`. -/
instance : FromJson Int32 where
  get _ j := (fun q => Int32.ofInt (truncate q)) <$> j.arithmetic

/-- `get<unsigned int>()`. -/
instance : FromJson UInt32 where
  get _ j := (fun q => UInt32.ofInt (truncate q)) <$> j.arithmetic

/-- `get<uint8_t>()`. -/
instance : FromJson UInt8 where
  get _ j := (fun q => UInt8.ofInt (truncate q)) <$> j.arithmetic

instance {T : Type} [FromJson T] : FromJson (List T) where
  get num j := match j with
    | arr xs => xs.mapM (FromJson.get num)
    | _ => .error .type302

end Json

end Libov
