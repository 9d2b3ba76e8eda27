import Assay.Plugin.Program
import Assay.Text.Cut

/-!
# Descriptions of plugins

The program of a plugin is described by a JSON object: its members in order, what it exports, the
analyzers it lists, and how it fails. What is left out has a default.
-/

namespace Assay.Plugin

open Check Source

/-- The failure that a kind and an argument describe, if it can be made. -/
def failureOfJson : Json → Except Failure Failure
  | .array [.text kind, argument] => Failure.make kind (Value.ofJson argument)
  | _ => .ok (.bare "Exception")

/-- What raising a described failure ends with: the failure, or that it cannot be made. -/
def raisedByJson (j : Json) : Failure :=
  match failureOfJson j with
  | .ok f | .error f => f

/-- The kind of host that a field names; the command line if it is left out. -/
def hostKindOf (j : Json) : Except Failure HostKind :=
  HostKind.ofValue (j.valueOr "kind" (.text "cli"))

/-- The marker that an object describes. A bare one has no details. -/
def Marker.ofJson (j : Json) : Marker :=
  let kind := (hostKindOf j).toOption.getD .cli
  if j.flag "bare" then { kind, name := .text defaultName }
  else
    { kind, name := nameOf (j.valueOr "name" .none)
      shortDescription := j.valueOr "short_description" .none
      helpUri := j.valueOr "help_uri" .none }

/-- The place of a parameter that a word stands for. -/
def roleOfWord : String → ParameterRole
  | "posonly" => .positionalOnly
  | "kwonly" => .keywordOnly
  | "var" => .variadic
  | "varkw" => .variadicKeyword
  | _ => .positional

/-- The parameter that an object describes. -/
def WrittenParameter.ofJson (j : Json) : WrittenParameter :=
  { name := j.textOr "name" "", role := roleOfWord (j.textOr "kind" "pos")
    isOptional := j.flag "default", annotation := (j.field? "ann").bind Json.text? }

/-- What an analyzer does, by the one field that says so. -/
def Behaviour.ofJson (j : Json) : Behaviour :=
  match j.field? "return", j.field? "raise", j.field? "uses", j.field? "project_uses",
      j.field? "entities", j.field? "decls", j.field? "parsed" with
  | some v, _, _, _, _, _, _ => .giveBack (Value.ofJson v)
  | _, some f, _, _, _, _, _ => .fail (raisedByJson f)
  | _, _, some code, _, _, _, _ => .fileUses (Value.ofJson code)
  | _, _, _, some code, _, _, _ => .projectUses (Value.ofJson code)
  | _, _, _, _, some code, _, _ => .entities (Value.ofJson code) (j.flag "public_only")
  | _, _, _, _, _, some code, _ => .declarations (Value.ofJson code)
  | _, _, _, _, _, _, some code => .parseState (Value.ofJson code)
  | _, _, _, _, _, _, _ =>
      if (j.field? "unused").isSome then .unusedValues else .emit (j.itemsOf "emit")

/-- The definition that an object describes, with the name in a field. -/
def Definition.ofJson (nameField : String) (j : Json) : Definition :=
  let behaviour := (j.field? "do").getD .null
  { name := j.textOr nameField ""
    marker := (j.field? "marker").map Marker.ofJson
    parameters := match j.field? "params" with
      | some (.array ps) => ps.map WrittenParameter.ofJson
      | _ => [{ name := "ctx" }]
    returns := (j.field? "returns").bind Json.text?
    isAwaited := j.flag "async" || behaviour.flag "awaitable"
    behaviour := .ofJson behaviour }

/-- The member that an object describes. -/
def Member.ofJson (j : Json) : Member :=
  if (j.field? "def").isSome then .function (.ofJson "def" j)
  else if (j.field? "class").isSome then
    .ofClass (j.textOr "class" "") ((j.field? "marker").map Marker.ofJson)
      ((j.itemsOf "statics").map (Definition.ofJson "def"))
      ((j.itemsOf "methods").map (Definition.ofJson "def"))
  else if (j.field? "instance").isSome then
    let d := Definition.ofJson "instance" j
    .callable
      (if j.flag "bad_signature" then { d with inspected := some (.error (.type "no signature")) }
      else d)
  else if (j.field? "value").isSome then .value (j.textOr "value" "") (j.valueOr "is" .none)
  else if (j.field? "alias").isSome then .alias (j.textOr "alias" "") (j.textOr "of" "")
  else if (j.field? "del").isSome then .delete (j.textOr "del" "")
  else .imported (j.textOr "import" "")
    (if j.textOr "what" "" = "SharedClass" then .ofClass else .function)

/-- The item of a list of analyzers that a value describes. A text with an equals sign at the front
names an object. -/
def ListedItem.ofJson : Json → ListedItem
  | .text s => match s.toList with
    | '=' :: path =>
        let owner := path.takeWhile (· ≠ '.')
        match path.drop owner.length with
        | [] => .object (String.ofList owner)
        | _ :: name => match Text.cut '\'' name with
          | [front, inner, _] =>
              if String.ofList front = "__dict__[" then
                .member (String.ofList owner) (String.ofList inner) true
              else .member (String.ofList owner) (String.ofList name) false
          | _ => .member (String.ofList owner) (String.ofList name) false
    | _ => .value (.text s)
  | j => .value (Value.ofJson j)

/-- The list of analyzers that a value describes. -/
def Listing.ofJson : Json → Listing
  | .array all => .items (all.map ListedItem.ofJson)
  | j => .value (Value.ofJson j)

/-- The program that an object describes. -/
def Program.ofJson (j : Json) : Program :=
  { members := (j.itemsOf "members").map Member.ofJson
    exports := j.valueOr "all" .none
    listed := (j.field? "analyzers").map Listing.ofJson
    failure := (j.field? "raise").map raisedByJson
    deferAnnotations := j.flag "future" }

end Assay.Plugin
