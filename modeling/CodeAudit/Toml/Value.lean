import CodeAudit.Floating.Basic

/-!
# TOML values

A table remembers how it came to be, because that decides what may still be added to it.  Dates
and times are recognised but carry no content here.
-/

namespace CodeAudit

/-- How a table came to be. -/
inductive TableOrigin where
  /-- By a header of its own. -/
  | header
  /-- By a header of a table inside it. -/
  | implied
  /-- By a dotted key. -/
  | dotted
  /-- Between braces. -/
  | inline
  deriving DecidableEq

/-- A TOML value. -/
inductive Toml where
  | text (content : String)
  | integer (value : Int)
  | real (value : Floating)
  | truth (value : Bool)
  | moment
  | list (items : List Toml)
  | table (origin : TableOrigin) (members : List (String × Toml))
  /-- The tables of a header in double brackets. -/
  | tables (items : List (List (String × Toml)))
  deriving Inhabited

namespace Toml

/-- The members of a table. -/
abbrev Members := List (String × Toml)

/-- Puts a value under a key, in place of what was there. -/
def setMember (key : String) (value : Toml) : Members → Members
  | [] => [(key, value)]
  | (other, kept) :: rest =>
    if other = key then (key, value) :: rest else (other, kept) :: setMember key value rest

/-- Adds a value under a dotted key.  `dotted` says whether the table at hand was made by a dotted
key, and `top` whether no part of the key has been followed yet: a value may be added at the top or
to a table that dotted keys have made, but never twice under one key. -/
def addMember (key : String) (value : Toml) (dotted top : Bool) :
    (path : List String) → Members → Option Members
  | [], members =>
    if dotted = top || (members.lookup key).isSome then none
    else some (setMember key value members)
  | name :: path, members =>
    match members.lookup name with
    | none => do
      let inner ← addMember key value true false path []
      return setMember name (.table .dotted inner) members
    | some (.table .dotted inner) => do
      let inner ← addMember key value true false path inner
      return setMember name (.table .dotted inner) members
    | some (.table .implied inner) => do
      let inner ← addMember key value false false path inner
      return setMember name (.table .implied inner) members
    | some (.tables items) =>
      match items.getLast? with
      | none => none
      | some last => do
        let last ← addMember key value false false path last
        return setMember name (.tables (items.dropLast ++ [last])) members
    | some _ => none

/-- Changes the value under the last name of a path; tables on the way are made if they are
missing, and of the tables of a header in double brackets the last one is taken. -/
def changeAt (change : Option Toml → Option Toml) :
    (path : List String) → Members → Option Members
  | [], _ => none
  | [name], members => do return setMember name (← change (members.lookup name)) members
  | name :: path, members =>
    match members.lookup name with
    | none => do
      return setMember name (.table .implied (← changeAt change path [])) members
    | some (.table .inline _) => none
    | some (.table origin inner) => do
      return setMember name (.table origin (← changeAt change path inner)) members
    | some (.tables items) =>
      match items.getLast? with
      | none => none
      | some last => do
        let last ← changeAt change path last
        return setMember name (.tables (items.dropLast ++ [last])) members
    | some _ => none

end Toml

end CodeAudit
