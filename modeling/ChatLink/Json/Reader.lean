import ChatLink.Json.Token
import ChatLink.Text.Utf8

namespace ChatLink.Json

/-- A container that is being read: what it holds so far, latest first, and in a table the key
whose value comes next. -/
inductive Level
  | list (items : List Value)
  | table (entries : List (String × Value)) (key : String)

def maxDepth : Nat := 1024

mutual

def value? (stack : List Level) : List Token → Option Value
  | .scalar v :: rest => finish? stack v rest
  | .openList :: rest =>
    if maxDepth ≤ stack.length then none
    else
      match rest with
      | .closeList :: rest => finish? stack (.list []) rest
      | rest => value? (.list [] :: stack) rest
  | .openTable :: rest =>
    if maxDepth ≤ stack.length then none
    else
      match rest with
      | .closeTable :: rest => finish? stack (.table []) rest
      | .scalar (.text key) :: .colon :: rest => value? (.table [] key :: stack) rest
      | _ => none
  | _ => none
termination_by tokens => tokens.length

def finish? (stack : List Level) (v : Value) : List Token → Option Value
  | [] => if stack.isEmpty then some v else none
  | token :: rest =>
    match stack, token, rest with
    | .list items :: stack, .comma, rest => value? (.list (v :: items) :: stack) rest
    | .list items :: stack, .closeList, rest => finish? stack (.list (v :: items).reverse) rest
    | .table entries key :: stack, .comma, .scalar (.text next) :: .colon :: rest =>
      value? (.table ((key, v) :: entries) next :: stack) rest
    | .table entries key :: stack, .closeTable, rest =>
      finish? stack (.table (Table.ofList ((key, v) :: entries).reverse)) rest
    | _, _, _ => none
termination_by tokens => tokens.length

end

def read (bytes : Bytes) : Option Value := do
  let text ← Utf8.decode? bytes
  value? [] (← tokens? text.toList)

end ChatLink.Json
