/-!
Contract: values as they are written in a configuration, before anything is
asked of them.

Owns:

- `Setting`, and tables of settings, which keep the order of their keys;
- what a configuration can tell of a floating-point number.
-/

namespace Annotations

/-- What matters of a floating-point number: whether it is an integer, and which. -/
inductive FloatClass where
  | integral (value : Int)
  | fractional
  /-- An infinity or no number at all. -/
  | notFinite
deriving DecidableEq, Repr

inductive Setting where
  | null
  | boolean (value : Bool)
  | integer (value : Int)
  | float (value : FloatClass)
  | string (value : String)
  /-- A date, a time, or both. -/
  | dateTime
  | list (items : List Setting)
  | table (fields : List (String × Setting))
deriving Repr

/-- Settings by key, each key once. -/
abbrev Table := List (String × Setting)

/-- Give a key a value, in its old place if it has one. -/
def Table.set (table : Table) (key : String) (value : Setting) : Table :=
  match table with
  | [] => [(key, value)]
  | (other, old) :: rest =>
      if other = key then (key, value) :: rest else (other, old) :: Table.set rest key value

def Table.get? (table : Table) (key : String) : Option Setting :=
  table.lookup key

/-- Put settings over a table. Where both have a table under a key, the two are merged at that
level; any other setting replaces the old one. -/
def Table.override (table : Table) (overrides : Table) : Table :=
  overrides.foldl
    (fun table (key, value) =>
      match table.get? key, value with
      | some (.table old), .table new =>
          let merged := new.foldl (fun merged (name, item) => Table.set merged name item) old
          table.set key (.table merged)
      | _, _ => table.set key value)
    table

/-- What a double in its binary form is: its sign, its exponent and its fraction give
`significand * 2 ^ (exponent - 1075)`. -/
def FloatClass.ofBits (bits : Nat) : FloatClass :=
  let negative := (bits >>> 63) % 2 = 1
  let exponent := (bits >>> 52) % 2048
  let fraction := bits % (1 <<< 52)
  if exponent = 2047 then .notFinite
  else
    let significand := if exponent = 0 then fraction else fraction + (1 <<< 52)
    let scale := max exponent 1
    let magnitude? : Option Nat :=
      if 1075 ≤ scale then some (significand <<< (scale - 1075))
      else
        let divisor := 1 <<< (1075 - scale)
        if significand % divisor = 0 then some (significand / divisor) else none
    match magnitude? with
    | some magnitude => .integral (if negative then -(magnitude : Int) else magnitude)
    | none => .fractional

/-- The double nearest to `significand * 10 ^ exponent`. Exponents beyond all doubles are cut
off. -/
def FloatClass.ofDecimal (negative : Bool) (significand : Nat) (exponent : Int) : FloatClass :=
  let digits := (Nat.toDigits 10 significand).length
  if significand = 0 ∨ exponent + digits < -400 then .integral 0
  else if 400 < exponent + digits then .notFinite
  else
    let nearest := Float.ofScientific significand (exponent < 0) exponent.natAbs
    match FloatClass.ofBits nearest.toBits.toNat with
    | .integral value => .integral (if negative then -value else value)
    | other => other

end Annotations
