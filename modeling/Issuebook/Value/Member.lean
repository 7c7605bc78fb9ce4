import Issuebook.Text.Basic
import Issuebook.Value.Basic

/-!
# Classes of values and their members

The classes that plain values belong to, with their names, their descriptions and the
classes they refine. A truth value is a whole number of a kind, and every class refines the
class of all objects. Records, lists and issues are looked into by their own contents and
have no class here.

The names under which the members of a class have operations and parts. A class has those of
the classes that it refines too, where it has none of its own of that name.
-/

namespace Issuebook

/-- A class of values. -/
inductive ValueClass where
  /-- Texts. -/
  | text
  /-- Whole numbers. -/
  | whole
  /-- Truth values. -/
  | truth
  /-- Floating-point numbers. -/
  | float
  /-- All objects. -/
  | object
  /-- Classes. -/
  | type
  /-- Operations that signs stand for, apart from what they belong to. -/
  | operationMember
  /-- Other operations, apart from what they belong to. -/
  | methodMember
  /-- Parts, apart from what they belong to. -/
  | partMember
  /-- Operations that signs stand for, together with what they belong to. -/
  | boundOperation
  /-- Other operations, together with what they belong to. -/
  | boundMethod
  deriving Repr, DecidableEq, Inhabited

namespace ValueClass

/-- The name of a class. -/
def name : ValueClass → Text
  | .text => "str"
  | .whole => "int"
  | .truth => "bool"
  | .float => "float"
  | .object => "object"
  | .type => "type"
  | .operationMember => "wrapper_descriptor"
  | .methodMember => "method_descriptor"
  | .partMember => "getset_descriptor"
  | .boundOperation => "method-wrapper"
  | .boundMethod => "builtin_function_or_method"

/-- The place where all classes are declared. -/
def home : Text := "builtins"

/-- How a class is written. -/
def toText (kind : ValueClass) : Text :=
  ("<class '" : Text) ++ kind.name ++ ("'>" : Text)

/-- The class that a class refines. -/
def base? : ValueClass → Option ValueClass
  | .object => none
  | .truth => some .whole
  | _ => some .object

/-- A class and all that it refines, the nearest first. -/
def lineage : ValueClass → List ValueClass
  | .object => [.object]
  | .truth => [.truth, .whole, .object]
  | kind => [kind, .object]

/-- What is said about the members of a class, line by line. -/
def descriptionLines : ValueClass → List Text
  | .text =>
    ["str(object='') -> str",
     "str(bytes_or_buffer[, encoding[, errors]]) -> str",
     "",
     "Create a new string object from the given object. If encoding or",
     "errors is specified, then the object must expose a data buffer",
     "that will be decoded using the given encoding and error handler.",
     "Otherwise, returns the result of object.__str__() (if defined)",
     "or repr(object).",
     "encoding defaults to sys.getdefaultencoding().",
     "errors defaults to 'strict'."]
  | .whole =>
    ["int([x]) -> integer",
     "int(x, base=10) -> integer",
     "",
     "Convert a number or string to an integer, or return 0 if no arguments",
     "are given.  If x is a number, return x.__int__().  For floating point",
     "numbers, this truncates towards zero.",
     "",
     "If x is not a number or if base is given, then x must be a string,",
     "bytes, or bytearray instance representing an integer literal in the",
     "given base.  The literal can be preceded by '+' or '-' and be surrounded",
     "by whitespace.  The base defaults to 10.  Valid bases are 0 and 2-36.",
     "Base 0 means to interpret the base from the string as an integer literal.",
     ">>> int('0b100', base=0)",
     "4"]
  | .truth =>
    ["bool(x) -> bool",
     "",
     "Returns True when the argument x is true, False otherwise.",
     "The builtins True and False are the only two instances of the class bool.",
     "The class bool is a subclass of the class int, and cannot be subclassed."]
  | .float =>
    ["Convert a string or number to a floating point number, if possible."]
  | .object =>
    ["The base class of the class hierarchy.",
     "",
     "When called, it accepts no arguments and returns a new featureless",
     "instance that has no instance attributes and cannot be given any.",
     ""]
  | .type =>
    ["type(object) -> the object's type",
     "type(name, bases, dict, **kwds) -> a new type"]
  | kind => [("<attribute '__doc__' of '" : Text) ++ kind.name ++ ("' objects>" : Text)]

/-- What is said about the members of a class. -/
def description (kind : ValueClass) : Text :=
  Text.join "\n" kind.descriptionLines

end ValueClass

/-- The class of a plain value. -/
def Value.kind? : Value → Option ValueClass
  | .text _ => some .text
  | .int _ => some .whole
  | .bool _ => some .truth
  | .float _ => some .float
  | .null | .list _ | .record _ | .issue _ => none

/-! ## Members -/

/-- A kind of member of a class. -/
inductive MemberKind where
  /-- An operation behind a sign or a built-in function. -/
  | operation
  /-- Another operation. -/
  | method
  /-- Something that all members share with their class. -/
  | shared
  /-- Something that belongs to no member. -/
  | free
  /-- A part of a member. -/
  | part
  deriving Repr, DecidableEq, Inhabited

/-- A member of a class. -/
structure ClassMember where
  /-- The class that declares it. -/
  owner : ValueClass
  /-- What it is. -/
  kind : MemberKind
  /-- Its name. -/
  name : Text
  deriving Repr, DecidableEq, Inhabited

namespace ClassMember

/-- The operations that signs and built-in functions stand for, by class. -/
def operationRows : ValueClass → List String
  | .text =>
    ["__add__ __contains__ __eq__ __ge__ __getattribute__ __getitem__ __gt__",
     "__hash__ __iter__ __le__ __len__ __lt__ __mod__ __mul__ __ne__ __repr__",
     "__rmod__ __rmul__ __str__"]
  | .whole =>
    ["__abs__ __add__ __and__ __bool__ __divmod__ __eq__ __float__ __floordiv__",
     "__ge__ __getattribute__ __gt__ __hash__ __index__ __int__ __invert__ __le__",
     "__lshift__ __lt__ __mod__ __mul__ __ne__ __neg__ __or__ __pos__ __pow__",
     "__radd__ __rand__ __rdivmod__ __repr__ __rfloordiv__ __rlshift__ __rmod__",
     "__rmul__ __ror__ __rpow__ __rrshift__ __rshift__ __rsub__ __rtruediv__",
     "__rxor__ __sub__ __truediv__ __xor__"]
  | .truth =>
    ["__and__ __or__ __rand__ __repr__ __ror__ __rxor__ __xor__"]
  | .float =>
    ["__abs__ __add__ __bool__ __divmod__ __eq__ __float__ __floordiv__ __ge__",
     "__getattribute__ __gt__ __hash__ __int__ __le__ __lt__ __mod__ __mul__ __ne__",
     "__neg__ __pos__ __pow__ __radd__ __rdivmod__ __repr__ __rfloordiv__ __rmod__",
     "__rmul__ __rpow__ __rsub__ __rtruediv__ __sub__ __truediv__"]
  | .object =>
    ["__delattr__ __eq__ __ge__ __getattribute__ __gt__ __hash__ __init__ __le__",
     "__lt__ __ne__ __repr__ __setattr__ __str__"]
  | .type =>
    ["__call__ __delattr__ __getattribute__ __init__ __or__ __repr__ __ror__",
     "__setattr__"]
  | _ => []

/-- The other operations of the members of a class. -/
def methodRows : ValueClass → List String
  | .text =>
    ["__format__ __getnewargs__ __sizeof__ capitalize casefold center count encode",
     "endswith expandtabs find format format_map index isalnum isalpha isascii",
     "isdecimal isdigit isidentifier islower isnumeric isprintable isspace istitle",
     "isupper join ljust lower lstrip partition removeprefix removesuffix replace",
     "rfind rindex rjust rpartition rsplit rstrip split splitlines startswith strip",
     "swapcase title translate upper zfill"]
  | .whole =>
    ["__ceil__ __floor__ __format__ __getnewargs__ __round__ __sizeof__ __trunc__",
     "as_integer_ratio bit_count bit_length conjugate to_bytes"]
  | .float =>
    ["__ceil__ __floor__ __format__ __getnewargs__ __round__ __trunc__",
     "as_integer_ratio conjugate hex is_integer"]
  | .object =>
    ["__dir__ __format__ __getstate__ __reduce__ __reduce_ex__ __sizeof__"]
  | .type =>
    ["__dir__ __instancecheck__ __sizeof__ __subclasscheck__ __subclasses__ mro"]
  | _ => []

/-- What the members of a class share with the class itself. -/
def sharedRows : ValueClass → List String
  | .text =>
    ["__new__"]
  | .whole =>
    ["__new__ from_bytes"]
  | .truth =>
    ["__new__"]
  | .float =>
    ["__getformat__ __new__ fromhex"]
  | .object =>
    ["__init_subclass__ __new__ __subclasshook__"]
  | .type =>
    ["__new__ __prepare__"]
  | _ => []

/-- What a class keeps for no member. -/
def freeRows : ValueClass → List String
  | .text =>
    ["maketrans"]
  | _ => []

/-- The parts that members of a class have. -/
def partRows : ValueClass → List String
  | .whole =>
    ["denominator imag numerator real"]
  | .float =>
    ["imag real"]
  | _ => []

/-- The names of one kind that a class declares. -/
def declared (owner : ValueClass) (kind : MemberKind) : List Text :=
  let rows := match kind with
    | .operation => operationRows owner
    | .method => methodRows owner
    | .shared => sharedRows owner
    | .free => freeRows owner
    | .part => partRows owner
  rows.flatMap fun row => Text.words row.toList

/-- Every kind of member. -/
def kinds : List MemberKind :=
  [.operation, .method, .shared, .free, .part]

/-- The member of a name that a class declares. -/
def declaredBy? (owner : ValueClass) (name : Text) : Option ClassMember :=
  (kinds.find? fun kind => (declared owner kind).contains name).map fun kind =>
    ⟨owner, kind, name⟩

/-- The member of a name that a class has, its own or that of the nearest class it refines. -/
def find? (kind : ValueClass) (name : Text) : Option ClassMember :=
  kind.lineage.findSome? fun owner => declaredBy? owner name

/-- The name of a member behind that of a class. -/
def nameIn (known : ClassMember) (kind : ValueClass) : Text :=
  kind.name ++ '.' :: known.name

/-- How a member of a class is written. -/
def toText (known : ClassMember) : Text :=
  let kind : Text := match known.kind with
    | .operation => "slot wrapper"
    | .method | .shared | .free => "method"
    | .part => "attribute"
  '<' :: kind ++ (" '" : Text) ++ known.name ++ ("' of '" : Text) ++ known.owner.name ++
    ("' objects>" : Text)

/-- The class of a member. -/
def type (known : ClassMember) : ValueClass :=
  match known.kind with
  | .operation => .operationMember
  | .method | .shared | .free => .methodMember
  | .part => .partMember

/-- How a member is written together with what it belongs to, a member of `holder`. -/
def boundText (known : ClassMember) (holder : ValueClass) : Text :=
  let head : Text := match known.kind with
    | .operation => ("method-wrapper '" : Text) ++ known.name ++ ['\'']
    | _ => ("built-in method " : Text) ++ known.name
  '<' :: head ++ (" of " : Text) ++ holder.name ++ (" object>" : Text)

/-- The class of a member together with what it belongs to. -/
def boundType (known : ClassMember) : ValueClass :=
  match known.kind with
  | .operation => .boundOperation
  | _ => .boundMethod

end ClassMember

end Issuebook
