import LintBridge.Json.Basic
import LintBridge.Uri.Reader

namespace LintBridge.Protocol

/-- Whether a field has to be there. An array may stop only before fields that have a default. -/
inductive Presence where
  | required
  | optional
  | defaulted
  deriving DecidableEq, Repr

mutual

inductive Shape where
  | any
  | flag
  | text
  | uri
  | whole (low high : Int)
  | number
  | maybe (s : Shape)
  | list (s : Shape)
  | table (uriKeys : Bool) (s : Shape)
  | tuple (ss : Shapes)
  | word (choices : List String)
  | oneOf (ss : Shapes)
  | record (positional : Bool) (fs : Fields)
  | extensible (fs : Fields) (rest : Shape)
  /-- A record with one more field before its own, that gives the name of its kind or the place of the kind
  among the others. -/
  | tagged (field name : String) (index : Nat) (fs : Fields)

inductive Shapes where
  | nil
  | cons (s : Shape) (ss : Shapes)

inductive Fields where
  | nil
  | cons (name : String) (p : Presence) (s : Shape) (fs : Fields)

end

namespace Fields

def names : Fields → List String
  | .nil => []
  | .cons name _ _ fs => name :: fs.names

end Fields

def isTag (name : String) (index : Nat) : Json → Bool
  | .str s => s == name
  | .int n => n == index
  | _ => false

mutual

def Shape.accepts : Shape → Json → Bool
  | .any, _ => true
  | .flag, .bool _ => true
  | .text, .str _ => true
  | .uri, .str s => (Uri.parse s).isOk
  | .whole low high, .int n => low ≤ n && n ≤ high
  | .number, .int _ => true
  | .number, .float _ => true
  | .maybe s, v => v.isNull || s.accepts v
  | .list s, .arr vs => vs.all s.accepts
  | .table uriKeys s, .obj vs => vs.all fun v => (!uriKeys || (Uri.parse v.1).isOk) && s.accepts v.2
  | .tuple ss, .arr vs => ss.acceptEach vs
  | .word choices, .str s => choices.contains s
  | .word choices, .obj [(s, .null)] => choices.contains s
  | .oneOf ss, v => ss.acceptOne v
  | .record _ fs, .obj vs => fs.acceptNamed vs
  | .record true fs, .arr vs => fs.acceptListed vs
  | .extensible fs rest, .obj vs =>
      fs.acceptNamed vs && vs.all fun v => fs.names.contains v.1 || rest.accepts v.2
  | .tagged field name index fs, .obj vs => (vs.lookup field).any (isTag name index) && fs.acceptNamed vs
  | .tagged _ name index fs, .arr (v :: vs) => isTag name index v && fs.acceptListed vs
  | _, _ => false

def Shapes.acceptEach : Shapes → List Json → Bool
  | .nil, [] => true
  | .cons s ss, v :: vs => s.accepts v && ss.acceptEach vs
  | _, _ => false

def Shapes.acceptOne : Shapes → Json → Bool
  | .nil, _ => false
  | .cons s ss, v => s.accepts v || ss.acceptOne v

def Fields.acceptNamed : Fields → List (String × Json) → Bool
  | .nil, _ => true
  | .cons name p s fs, vs =>
      (match vs.lookup name with
        | some v => s.accepts v
        | none => p != .required) && fs.acceptNamed vs

def Fields.acceptListed : Fields → List Json → Bool
  | .nil, vs => vs.isEmpty
  | .cons _ _ s fs, v :: vs => s.accepts v && fs.acceptListed vs
  | .cons _ p _ fs, [] => p == .defaulted && fs.acceptListed []

end

def Fields.field? (fs : Fields) (name : String) : Json → Option Json
  | .obj vs => vs.lookup name
  | .arr vs => (fs.names.idxOf? name).bind (vs[·]?)
  | _ => none

namespace Shape

def i32 : Shape := .whole (-2147483648) 2147483647
def u32 : Shape := .whole 0 4294967295

def fields : Shape → Fields
  | .record _ fs => fs
  | .extensible fs _ => fs
  | .tagged _ _ _ fs => fs
  | _ => .nil

def field? (s : Shape) (name : String) (v : Json) : Option Json := s.fields.field? name v

def shapes : List Shape → Shapes
  | [] => .nil
  | s :: ss => .cons s (shapes ss)

def fieldsOf : List (String × Presence × Shape) → Fields
  | [] => .nil
  | (name, p, s) :: fs => .cons name p s (fieldsOf fs)

def oneOfList (ss : List Shape) : Shape := .oneOf (shapes ss)

/-- A record that may also be written as an array of its fields in order. In an object unknown fields do not count.
-/
def compound (fs : List (String × Presence × Shape)) : Shape := .record true (fieldsOf fs)

/-- A record put together from several others; it is always an object. -/
def object (fs : List (String × Presence × Shape)) : Shape := .record false (fieldsOf fs)

end Shape

def req (name : String) (s : Shape) : String × Presence × Shape := (name, .required, s)

def opt (name : String) (s : Shape) : String × Presence × Shape := (name, .optional, .maybe s)

/-- A field that may be absent or null, also at the end of an array. -/
def dflt (name : String) (s : Shape) : String × Presence × Shape := (name, .defaulted, .maybe s)

end LintBridge.Protocol
