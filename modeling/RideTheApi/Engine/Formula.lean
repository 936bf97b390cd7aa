import RideTheApi.Engine.Placeholder
import RideTheApi.Engine.Source
import RideTheApi.Py.Format

/-!
# `Engine.Formula` — evaluating a formula transform

Values are spliced into the formula as literals and the resulting text is evaluated by `ast` and
`simpleeval` (`Host.evaluate`). A formula that is one placeholder takes the value as it is. Every failure
makes the result 0.
-/

namespace RideTheApi.Engine

open Py

def maxFormulaLength : Nat := 1024

def maxResolvedFormulaLength : Nat := 16 * 1024

/-- Render a runtime value as a literal inside a formula. -/
def asFormulaLiteral (I : Interp) : Json → Result Str
  | .bool b  => .ok (if b then "1" else "0")
  | .int n   => intStr n
  | .float x => .ok (I.floatStr x)
  | v        => dumps I v

/-- A match of the formula regex: like the template one, without `{uuid}`. -/
def matchFormulaVar (I : Interp) (s : Str) : Option (Placeholder × Str) :=
  match matchVar I s with
  | some (.uuid, _) => none
  | r               => r

/-- The pieces of a formula. -/
def formulaPieces (I : Interp) (s : Str) : List Piece := scanPieces (matchFormulaVar I) 0 s

/-- The value spliced for a placeholder. -/
def formulaVarValue (H : Host) (request : Json) (store : DeviceStateStore) : Placeholder → Result Json
  | .state name   => .ok (store.get name (.int 0))
  | .request path =>
    (resolveSource H (str "request." ++ path) request store).map fun val => val.orElse (.int 0)
  | .uuid         => .ok .null

/-- The text of one piece. -/
def formulaPieceText (H : Host) (request : Json) (store : DeviceStateStore) : Piece → Result Str
  | .char c => .ok [c]
  | .var p  => do
    let val ← formulaVarValue H request store p
    asFormulaLiteral H.toInterp val

/-- The text of a list of pieces. -/
def formulaText (H : Host) (request : Json) (store : DeviceStateStore) : List Piece → Result Str
  | []      => .ok []
  | p :: ps => do
    let s ← formulaPieceText H request store p
    let ss ← formulaText H request store ps
    .ok (s ++ ss)

/-- The formula is one reference, by its opening text. -/
def isSingleReference (formula opening : Str) : Bool :=
  formula.startsWith opening && formula.endsWith "\x7d" && formula.count (cp '\x7b') == 1

/-- `0 if val is None else val`. -/
def orZero : Json → Json
  | .null => .int 0
  | v     => v

/-- The value of a formula, before failures become 0. -/
def evalFormulaRaw (H : Host) (formula : Str) (request : Json) (store : DeviceStateStore) :
    Result Json :=
  if isSingleReference formula "\x7bstate." then
    .ok (orZero (store.get (formula.drop 7).dropLast .null))
  else if isSingleReference formula "\x7brequest." then
    (resolveSource H (str "request." ++ (formula.drop 9).dropLast) request store).map orZero
  else do
    let resolved ← formulaText H request store (formulaPieces H.toInterp formula)
    if maxResolvedFormulaLength < resolved.length then .ok (.int 0) else H.evaluate resolved

/-- Evaluate a formula expression. -/
def evalFormula (H : Host) (formula : Str) (request : Json) (store : DeviceStateStore) : Json :=
  if maxFormulaLength < formula.length then .int 0
  else match evalFormulaRaw H formula request store with
    | .ok val   => val
    | .error _  => .int 0

end RideTheApi.Engine
