import Schemata.LinkedType
import Schemata.Fundamental.Conversion

/-!
# Literals of linked types

A literal denotes a value of a type: a list for a collection, a tuple for a tuple member by member,
the first alternative that takes it for a variant. What is refused is reported at the literal that
does not fit.

Results: `LinkedType.convertMembers_length` (a tuple has as many values as members),
`LinkedType.convertMembers_eq_mapM` (its members are converted one after the other).
-/
namespace Schemata

/-- A diagnostic at a literal. -/
def refuse {α : Type} (e : Literal) (cause : Cause) : Except Diagnostic α :=
  .error (.located e.place cause)

/-- Converts as often as a cardinality says: an element as it is, a collection from a list with an
accepted number of elements. -/
def Cardinality.convert (c : Cardinality) (element : Literal → Except Diagnostic Value)
    (e : Literal) : Except Diagnostic Value :=
  if c.isCollection then
    match e with
    | .list _ elements =>
      if c.accepts elements.length then (elements.mapM element).map .list
      else refuse e (.cardinalityMismatch c.boundsText elements.length)
    | e => refuse e (.invalidExpressionKind "a list" e.kindName)
  else element e

namespace LinkedType

mutual

/-- The value that a literal denotes in a type, its cardinality left aside. -/
def convertElement (disk : Disk) : LinkedType → Literal → Except Diagnostic Value
  | fundamental _ type, e => type.parse disk e
  | struct _ _ name, e => refuse e (.unsupportedExpression name.name)
  | .alias _ _ aliased, e =>
    aliased.occurrence.cardinality.convert (fun e => convertElement disk aliased e) e
  | tuple _ members, e =>
    match e with
    | .tuple _ values =>
      if values.length < members.length then
        refuse e (.notEnoughTupleValues members.length values.length)
      else if members.length < values.length then
        refuse e (.tooManyTupleValues members.length values.length)
      else (convertMembers disk members values).map .tuple
    | e => refuse e (.invalidExpressionKind "a tuple" e.kindName)
  | variant o members, e =>
    match convertFirst disk members e with
    | some value => .ok value
    | none => refuse e (.noVariantAlternativeMatched (variant o members).displayName)

/-- The values of literals in the types at the same positions. -/
def convertMembers (disk : Disk) : List LinkedType → List Literal → Except Diagnostic (List Value)
  | t :: ts, e :: es => do
    let first ← t.occurrence.cardinality.convert (fun e => convertElement disk t e) e
    let rest ← convertMembers disk ts es
    return first :: rest
  | _, _ => .ok []

/-- The value of a literal in the first of several types that takes it. -/
def convertFirst (disk : Disk) : List LinkedType → Literal → Option Value
  | [], _ => none
  | t :: ts, e =>
    match t.occurrence.cardinality.convert (fun e => convertElement disk t e) e with
    | .ok value => some value
    | .error _ => convertFirst disk ts e

end

theorem convertMembers_length {disk : Disk} {ts : List LinkedType} {es : List Literal}
    {vs : List Value} (h : convertMembers disk ts es = .ok vs) :
    vs.length = min ts.length es.length := by
  induction ts generalizing es vs with
  | nil =>
    rw [convertMembers] at h
    · injection h with h
      simp [← h]
    · simp
  | cons t ts ih =>
    cases es with
    | nil =>
      rw [convertMembers] at h
      · injection h with h
        simp [← h]
      · simp
    | cons e es =>
      rw [convertMembers] at h
      cases hf : t.occurrence.cardinality.convert (fun e => convertElement disk t e) e with
      | error d => simp [hf, bind, Except.bind] at h
      | ok first =>
        cases hr : convertMembers disk ts es with
        | error d => simp [hf, hr, bind, Except.bind] at h
        | ok rest =>
          simp only [hf, hr, bind, Except.bind, pure, Except.pure, Except.ok.injEq] at h
          rw [← h, List.length_cons, ih hr, List.length_cons, List.length_cons]
          omega

/-- The value that a literal denotes in a type. -/
def convert (disk : Disk) (t : LinkedType) (e : Literal) : Except Diagnostic Value :=
  t.occurrence.cardinality.convert (t.convertElement disk) e

/-- The members of a tuple are converted one after the other. -/
theorem convertMembers_eq_mapM (disk : Disk) (ts : List LinkedType) (es : List Literal) :
    convertMembers disk ts es = (ts.zip es).mapM fun p => p.1.convert disk p.2 := by
  induction ts generalizing es with
  | nil => rfl
  | cons t ts ih =>
    cases es with
    | nil => rfl
    | cons e es =>
      rw [convertMembers, ih, List.zip_cons_cons, List.mapM_cons]
      rfl

end LinkedType
end Schemata
