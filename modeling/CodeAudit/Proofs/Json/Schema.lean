import CodeAudit.Proofs.Json.Records
import Mathlib.Data.List.Forall2
import Mathlib.Data.List.Nodup

/-!
# Which nodes are records

A record stands in a document as an object or as a list of its parts.  `Node.FitsRecord` says when a
node can be a record with certain names, and `Node.part?` finds the part with a name in either form;
both look at the node alone and know no order of reading.  A node is read as a record exactly if it
fits and every part can be read, and then each field is what its part gives.

**Results.**
* `fieldsAre_cons_iff`, `FieldsAre.lookup`: the fields of a record.
* `Reader.named_cons_eq_ok_iff`: one member of an object.
* `Reader.named_sound`, `Reader.named_complete`: all members of an object.
* `Reader.inTurn_eq_ok_iff`: the items of a list.
* `Reader.record_eq_ok_iff`: a record in either form.
-/

namespace CodeAudit
namespace Json

/-! ## Records as they stand in a document -/

/-- The end of a list or an object that has one. -/
def Ending.IsClosed (ending : Ending) : Prop := ∃ stop, ending = .closed stop

/-- Whether a key is this name. -/
def Key.isNamed (name : String) (key : Key) : Bool :=
  match key.text with
  | .ok text => text == name
  | .error _ => false

/-- The members of an object that may be a record: every key can be read, what has an unknown name
can be skipped, and a known name is there once at most. -/
structure FitsMembers
    (names : List String)
    (found : List (Key × Node)) : Prop where
  readable : ∀ part ∈ found, ∃ text, part.1.text = .ok text ∧
    (text ∈ names ∨ part.2.looseFault? = none)
  once : found.Pairwise fun a b => ∀ name ∈ names, a.1.text = .ok name → b.1.text ≠ .ok name

namespace Node

/-- A node may be a record with these names. -/
def FitsRecord (names : List String) : Node → Prop
  | .object _ members ending => FitsMembers names members ∧ ending.IsClosed
  | .list _ items ending => items.length ≤ names.length ∧ ending.IsClosed
  | _ => False

/-- The items of a list. -/
def items : Node → List Node
  | .list _ items _ => items
  | _ => []

/-- The part of a record with a name: what an object has under the name, or what a list has in the
place of the name. -/
def part? (names : List String) (name : String) : Node → Option Node
  | .object _ members _ => (members.find? fun part => part.1.isNamed name).map Prod.snd
  | .list _ items _ => items[names.idxOf name]?
  | _ => none

end Node

/-- What stands for a member that is absent. -/
def Member.fallback? (member : Member) : Option Value :=
  match member.absence with
  | .required => none
  | .optional => some .null
  | .default value => some value

/-- Members with one name each, all different, none of them absent without a default. -/
structure Plain (members : List Member) : Prop where
  sole : ∀ member ∈ members, member.names = [member.name]
  nodup : (members.map Member.name).Nodup
  decided : ∀ member ∈ members, member.absence ≠ .optional

/-- The value that a reader gives for a node. -/
def Reader.Gives
    (reader : Reader)
    (node : Node)
    (value : Value) : Prop :=
  reader node = .ok value

/-- The value that a member gives for a part of a record, or without one. -/
def Member.Gives (member : Member) : Option Node → Value → Prop
  | some node, value => member.reader node = .ok value
  | none, value => member.fallback? = some value

theorem Member.Gives.unique
    {member : Member}
    {part : Option Node}
    {value value' : Value}
    (hgives : member.Gives part value)
    (hgives' : member.Gives part value') :
    value = value' := by
  cases part with
  | none =>
      exact Option.some.inj (hgives.symm.trans hgives')
  | some node =>
      exact Except.ok.inj (hgives.symm.trans hgives')

section Ends

variable {ending : Ending}

theorem Ending.exists_reached_iff :
    (∃ stop, ending.reached = .ok stop) ↔ ending.IsClosed := by
  cases ending with
  | closed stop =>
      exact ⟨fun _ => ⟨stop, rfl⟩, fun _ => ⟨stop, rfl⟩⟩
  | broken strict loose =>
      simp [Ending.reached, Ending.IsClosed]

theorem Ending.exists_reachedAfterLast_iff :
    (∃ stop, ending.reachedAfterLast = .ok stop) ↔ ending.IsClosed := by
  cases ending with
  | closed stop =>
      exact ⟨fun _ => ⟨stop, rfl⟩, fun _ => ⟨stop, rfl⟩⟩
  | broken strict loose =>
      unfold Ending.reachedAfterLast
      simp only [Ending.reached, Ending.IsClosed]
      split <;> simp_all

theorem Key.isNamed_iff
    {key : Key}
    {name : String} :
    key.isNamed name = true ↔ key.text = .ok name := by
  unfold Key.isNamed
  cases key.text <;> simp

end Ends

/-! ## The fields of a record -/

theorem lookup_cons_of_ne
    {key name : String}
    (hne : key ≠ name)
    (value : Value)
    (entries : List (String × Value)) :
    ((name, value) :: entries).lookup key = entries.lookup key := by
  have hkey : (key == name) = false := beq_eq_false_iff_ne.mpr hne
  rw [List.lookup_cons, hkey]

/-- The fields of a record: one for each member, in the order of declaration and under its name, with
a value that the member may have. -/
def FieldsAre
    (Has : Member → Value → Prop)
    (members : List Member)
    (fields : List (String × Value)) : Prop :=
  List.Forall₂ (fun member field => field.1 = member.name ∧ Has member field.2) members fields

section Fields

variable {Has Has' : Member → Value → Prop} {member : Member} {members : List Member}
variable {fields : List (String × Value)}

theorem fieldsAre_nil_iff :
    FieldsAre Has [] fields ↔ [] = fields := by
  rw [FieldsAre, List.forall₂_nil_left_iff, eq_comm]

theorem fieldsAre_cons_iff :
    FieldsAre Has (member :: members) fields ↔
      ∃ value, Has member value ∧
        ∃ later, FieldsAre Has members later ∧ fields = (member.name, value) :: later := by
  rw [FieldsAre, List.forall₂_cons_left_iff]
  constructor
  · rintro ⟨⟨name, value⟩, later, ⟨rfl, hvalue⟩, hlater, rfl⟩
    exact ⟨value, hvalue, later, hlater, rfl⟩
  · rintro ⟨value, hvalue, later, hlater, rfl⟩
    exact ⟨(member.name, value), later, ⟨rfl, hvalue⟩, hlater, rfl⟩

theorem fieldsAre_congr
    (hsame : ∀ member ∈ members, ∀ value, Has member value ↔ Has' member value) :
    FieldsAre Has members fields ↔ FieldsAre Has' members fields := by
  induction members generalizing fields with
  | nil =>
      rw [fieldsAre_nil_iff, fieldsAre_nil_iff]
  | cons member rest ih =>
      obtain ⟨hmember, hrest⟩ := List.forall_mem_cons.mp hsame
      simp only [fieldsAre_cons_iff, hmember, ih hrest]

theorem exists_fieldsAre
    (hvalues : ∀ member ∈ members, ∃ value, Has member value) :
    ∃ fields, FieldsAre Has members fields := by
  induction members with
  | nil =>
      exact ⟨[], List.Forall₂.nil⟩
  | cons member rest ih =>
      obtain ⟨⟨value, hvalue⟩, hrest⟩ := List.forall_mem_cons.mp hvalues
      obtain ⟨later, hlater⟩ := ih hrest
      exact ⟨_, fieldsAre_cons_iff.mpr ⟨value, hvalue, later, hlater, rfl⟩⟩

/-- Every member of a record has a field. -/
theorem FieldsAre.lookup
    (hfields : FieldsAre Has members fields)
    (hnodup : (members.map Member.name).Nodup)
    (hmember : member ∈ members) :
    ∃ value, fields.lookup member.name = some value ∧ Has member value := by
  induction members generalizing fields with
  | nil =>
      cases hmember
  | cons first rest ih =>
      obtain ⟨hnew, hnodup⟩ := List.nodup_cons.mp hnodup
      obtain ⟨value, hvalue, later, hlater, rfl⟩ := fieldsAre_cons_iff.mp hfields
      rcases List.mem_cons.mp hmember with rfl | hrest
      · exact ⟨value, by simp, hvalue⟩
      · have hne : member.name ≠ first.name := by
          intro heq
          exact hnew (heq ▸ List.mem_map_of_mem hrest)
        rw [lookup_cons_of_ne hne]
        exact ih hlater hnodup hrest

end Fields

/-! ## Reading a record -/

section Plain

variable {members : List Member}

theorem Plain.find?_eq_none_iff
    (hplain : Plain members)
    {text : String} :
    (members.find? fun member => member.names.contains text) = none ↔
      text ∉ members.map Member.name := by
  rw [List.find?_eq_none]
  constructor
  · intro hnone hmem
    obtain ⟨member, hmember, rfl⟩ := List.mem_map.mp hmem
    apply hnone member hmember
    simp [hplain.sole member hmember]
  · intro htext member hmember hcontains
    rw [hplain.sole member hmember, List.contains_iff_mem, List.mem_singleton] at hcontains
    exact htext (hcontains ▸ List.mem_map_of_mem hmember)

theorem Plain.find?_eq_some_iff
    (hplain : Plain members)
    {text : String}
    {member : Member} :
    (members.find? fun member => member.names.contains text) = some member ↔
      member ∈ members ∧ member.name = text := by
  have hsound : ∀ found, (members.find? fun member => member.names.contains text) = some found →
      found ∈ members ∧ found.name = text := by
    intro found hfind
    have hmember := List.mem_of_find?_eq_some hfind
    have hcontains := List.find?_some hfind
    rw [hplain.sole found hmember, List.contains_iff_mem, List.mem_singleton] at hcontains
    exact ⟨hmember, hcontains.symm⟩
  refine ⟨hsound member, ?_⟩
  rintro ⟨hmember, rfl⟩
  cases hfind : members.find? fun other => other.names.contains member.name with
  | none =>
      rw [hplain.find?_eq_none_iff] at hfind
      exact absurd (List.mem_map_of_mem hmember) hfind
  | some found =>
      obtain ⟨hfound, hname⟩ := hsound found hfind
      rw [List.inj_on_of_nodup_map hplain.nodup hfound hmember hname]

end Plain

namespace Reader

variable {members : List Member} {read entries : List (String × Value)}

section Named

/-- One member of an object is skipped, or read under a name that is new. -/
theorem named_cons_eq_ok_iff
    (hplain : Plain members)
    {part : Key × Node}
    {rest : List (Key × Node)} :
    named members read (part :: rest) = .ok entries ↔
      ∃ text, part.1.text = .ok text ∧
        (text ∉ members.map Member.name ∧ part.2.looseFault? = none ∧
            named members read rest = .ok entries ∨
          ∃ member ∈ members, member.name = text ∧ read.lookup text = none ∧
            ∃ value, member.reader part.2 = .ok value ∧
              named members ((text, value) :: read) rest = .ok entries) := by
  obtain ⟨key, node⟩ := part
  rw [named, bind_eq_ok]
  refine exists_congr fun text => and_congr_right fun _ => ?_
  cases hfind : members.find? fun member => member.names.contains text with
  | none =>
      have hunknown := hplain.find?_eq_none_iff.mp hfind
      have hnone : ∀ member ∈ members, member.name ≠ text := by
        rintro member hmember rfl
        exact hunknown (List.mem_map_of_mem hmember)
      cases hfault : node.looseFault? with
      | none =>
          simp only [true_and]
          constructor
          · exact fun hrest => Or.inl ⟨hunknown, hrest⟩
          · rintro (⟨-, hrest⟩ | ⟨member, hmember, hname, -⟩)
            · exact hrest
            · exact absurd hname (hnone member hmember)
      | some fault =>
          simp only [reduceCtorEq, false_and, and_false, false_or, false_iff]
          rintro ⟨member, hmember, hname, -⟩
          exact hnone member hmember hname
  | some member =>
      obtain ⟨hmember, rfl⟩ := hplain.find?_eq_some_iff.mp hfind
      have hknown : member.name ∈ members.map Member.name := List.mem_map_of_mem hmember
      have honly : ∀ other ∈ members, other.name = member.name → other = member :=
        fun other hother hname => List.inj_on_of_nodup_map hplain.nodup hother hmember hname
      simp only [hknown, not_true_eq_false, false_and, false_or]
      cases hlookup : read.lookup member.name with
      | some value =>
          simp
      | none =>
          simp only [Option.isSome_none, Bool.false_eq_true, if_false, true_and]
          rw [bind_eq_ok]
          constructor
          · rintro ⟨value, hvalue, hrest⟩
            exact ⟨member, hmember, rfl, value, hvalue, hrest⟩
          · rintro ⟨other, hother, hname, value, hvalue, hrest⟩
            obtain rfl := honly other hother hname
            exact ⟨value, hvalue, hrest⟩

/-- What has been read of the members of an object, after others. -/
structure Named
    (members : List Member)
    (read : List (String × Value))
    (found : List (Key × Node))
    (entries : List (String × Value)) : Prop where
  fits : FitsMembers (members.map Member.name) found
  present : ∀ member ∈ members, ∀ part ∈ found, part.1.text = .ok member.name →
    read.lookup member.name = none ∧
      ∃ value, member.reader part.2 = .ok value ∧ entries.lookup member.name = some value
  absent : ∀ name, (∀ part ∈ found, part.1.text ≠ .ok name) →
    entries.lookup name = read.lookup name

theorem Named.nil : Named members read [] read where
  fits := ⟨by simp, List.Pairwise.nil⟩
  present := by simp
  absent := by simp

/-- A member with an unknown name changes nothing. -/
theorem Named.skip
    {part : Key × Node}
    {rest : List (Key × Node)}
    {text : String}
    (hnamed : Named members read rest entries)
    (htext : part.1.text = .ok text)
    (hunknown : text ∉ members.map Member.name)
    (hfault : part.2.looseFault? = none) :
    Named members read (part :: rest) entries where
  fits :=
    { readable := List.forall_mem_cons.mpr ⟨⟨text, htext, Or.inr hfault⟩, hnamed.fits.readable⟩
      once := by
        refine List.pairwise_cons.mpr ⟨?_, hnamed.fits.once⟩
        intro other _ name hname hpart
        rw [htext] at hpart
        exact absurd (Except.ok.inj hpart ▸ hname) hunknown }
  present member hmember := by
    refine List.forall_mem_cons.mpr ⟨?_, hnamed.present member hmember⟩
    intro hpart
    rw [htext] at hpart
    exact absurd (Except.ok.inj hpart ▸ List.mem_map_of_mem hmember) hunknown
  absent name hname := hnamed.absent name (List.forall_mem_cons.mp hname).2

/-- A member with a known name is found under it, and not a second time. -/
theorem Named.take
    (hplain : Plain members)
    {part : Key × Node}
    {rest : List (Key × Node)}
    {member : Member}
    {value : Value}
    (hnamed : Named members ((member.name, value) :: read) rest entries)
    (hmember : member ∈ members)
    (htext : part.1.text = .ok member.name)
    (hnew : read.lookup member.name = none)
    (hvalue : member.reader part.2 = .ok value) :
    Named members read (part :: rest) entries := by
  -- The name counts as read from here on, so the rest cannot have it again.
  have hlater : ∀ other ∈ rest, other.1.text ≠ .ok member.name := by
    intro other hother hname
    have htwice := (hnamed.present member hmember other hother hname).1
    simp at htwice
  have hentry : entries.lookup member.name = some value := by
    rw [hnamed.absent _ hlater]
    simp
  constructor
  · constructor
    · exact List.forall_mem_cons.mpr
        ⟨⟨member.name, htext, Or.inl (List.mem_map_of_mem hmember)⟩, hnamed.fits.readable⟩
    · refine List.pairwise_cons.mpr ⟨?_, hnamed.fits.once⟩
      intro other hother name _ hpart
      rw [htext] at hpart
      exact Except.ok.inj hpart ▸ hlater other hother
  · intro owner howner
    refine List.forall_mem_cons.mpr ⟨?_, ?_⟩
    · intro hpart
      rw [htext] at hpart
      obtain rfl := List.inj_on_of_nodup_map hplain.nodup hmember howner (Except.ok.inj hpart)
      exact ⟨hnew, value, hvalue, hentry⟩
    · intro other hother hname
      obtain ⟨hnone, hrest⟩ := hnamed.present owner howner other hother hname
      refine ⟨?_, hrest⟩
      have hne : owner.name ≠ member.name := by
        intro heq
        exact hlater other hother (heq ▸ hname)
      rwa [lookup_cons_of_ne hne] at hnone
  · intro name hname
    obtain ⟨hpart, hrest⟩ := List.forall_mem_cons.mp hname
    have hne : name ≠ member.name := by
      rintro rfl
      exact hpart htext
    rw [hnamed.absent name hrest, lookup_cons_of_ne hne]

theorem named_sound
    (hplain : Plain members)
    {found : List (Key × Node)}
    (hnamed : named members read found = .ok entries) :
    Named members read found entries := by
  induction found generalizing read with
  | nil =>
      obtain rfl : read = entries := Except.ok.inj hnamed
      exact Named.nil
  | cons part rest ih =>
      rw [named_cons_eq_ok_iff hplain] at hnamed
      obtain ⟨text, htext, ⟨hunknown, hfault, hrest⟩ |
        ⟨member, hmember, rfl, hnew, value, hvalue, hrest⟩⟩ := hnamed
      · exact (ih hrest).skip htext hunknown hfault
      · exact (ih hrest).take hplain hmember htext hnew hvalue

/-- Members are read if they fit, have new names and are read one by one. -/
theorem named_complete
    (hplain : Plain members)
    {found : List (Key × Node)}
    (hfits : FitsMembers (members.map Member.name) found)
    (hpresent : ∀ member ∈ members, ∀ part ∈ found, part.1.text = .ok member.name →
      read.lookup member.name = none ∧ ∃ value, member.reader part.2 = .ok value) :
    ∃ entries, named members read found = .ok entries := by
  induction found generalizing read with
  | nil =>
      exact ⟨read, rfl⟩
  | cons part rest ih =>
      obtain ⟨⟨text, htext, hcase⟩, hreadable⟩ := List.forall_mem_cons.mp hfits.readable
      obtain ⟨hfirst, honce⟩ := List.pairwise_cons.mp hfits.once
      by_cases hknown : text ∈ members.map Member.name
      · obtain ⟨member, hmember, rfl⟩ := List.mem_map.mp hknown
        obtain ⟨hnew, value, hvalue⟩ := hpresent member hmember part List.mem_cons_self htext
        have hrest : ∃ entries,
            named members ((member.name, value) :: read) rest = .ok entries := by
          apply ih ⟨hreadable, honce⟩
          intro owner howner other hother hname
          obtain ⟨hnone, hreads⟩ := hpresent owner howner other (List.mem_cons_of_mem _ hother) hname
          refine ⟨?_, hreads⟩
          have hne : owner.name ≠ member.name := by
            intro heq
            exact hfirst other hother member.name hknown htext (heq ▸ hname)
          rw [lookup_cons_of_ne hne]
          exact hnone
        obtain ⟨entries, hentries⟩ := hrest
        exact ⟨entries, (named_cons_eq_ok_iff hplain).mpr
          ⟨member.name, htext, Or.inr ⟨member, hmember, rfl, hnew, value, hvalue, hentries⟩⟩⟩
      · obtain ⟨entries, hentries⟩ := ih ⟨hreadable, honce⟩ fun member hmember other hother =>
          hpresent member hmember other (List.mem_cons_of_mem _ hother)
        exact ⟨entries, (named_cons_eq_ok_iff hplain).mpr
          ⟨text, htext, Or.inl ⟨hknown, hcase.resolve_left hknown, hentries⟩⟩⟩

end Named

section Record

theorem cons_eq_ok
    {α : Type}
    {first : α}
    {found : Except Fault (List α)}
    {result : List α} :
    (do return first :: (← found)) = (.ok result : Except Fault (List α)) ↔
      ∃ rest, found = .ok rest ∧ result = first :: rest := by
  rw [bind_eq_ok]
  refine exists_congr fun rest => and_congr_right fun _ => ?_
  exact ⟨fun heq => (Except.ok.inj heq).symm, fun heq => heq ▸ rfl⟩

/-- The fields of a record are what was read, or what stands for a member that was not. -/
theorem completed_eq_ok_iff
    {stop : Nat}
    {fields : List (String × Value)} :
    completed stop read members = .ok fields ↔
      FieldsAre
        (fun member value => (read.lookup member.name).or member.fallback? = some value)
        members fields := by
  induction members generalizing fields with
  | nil =>
      rw [fieldsAre_nil_iff]
      exact ⟨Except.ok.inj, congrArg Except.ok⟩
  | cons member rest ih =>
      have hstep : completed stop read (member :: rest) = .ok fields ↔
          ∃ value, (read.lookup member.name).or member.fallback? = some value ∧
            ∃ later, completed stop read rest = .ok later ∧
              fields = (member.name, value) :: later := by
        rw [completed]
        unfold Member.fallback?
        cases read.lookup member.name with
        | some value =>
            simp only [Option.some_or, Option.some.injEq, exists_eq_left']
            exact cons_eq_ok
        | none =>
            cases member.absence with
            | required =>
                simp [bind, Except.bind]
            | optional | default =>
                simp only [Option.none_or, Option.some.injEq, exists_eq_left']
                exact cons_eq_ok
      rw [hstep, fieldsAre_cons_iff]
      simp only [ih]

/-- The fields of a record from the items of a list with an end. -/
theorem inTurn_eq_ok_iff
    (hdecided : ∀ member ∈ members, member.absence ≠ .optional)
    {expected : String}
    {stop position : Nat}
    {items : List Node}
    {part : Member → Option Node}
    (hpart : ∀ i, (h : i < members.length) → part members[i] = items[i]?)
    {fields : List (String × Value)} :
    inTurn expected (.closed stop) position members items = .ok fields ↔
      FieldsAre (fun member => member.Gives (part member)) members fields := by
  induction members generalizing position items fields with
  | nil =>
      rw [fieldsAre_nil_iff]
      cases items <;> exact ⟨Except.ok.inj, congrArg Except.ok⟩
  | cons member rest ih =>
      obtain ⟨hmember, hrest⟩ := List.forall_mem_cons.mp hdecided
      have hhead : part member = items[0]? := hpart 0 (by simp)
      have htail : ∀ i, (h : i < rest.length) → part rest[i] = items.tail[i]? := by
        intro i hi
        rw [List.getElem?_tail]
        exact hpart (i + 1) (by simpa using hi)
      have hstep : inTurn expected (.closed stop) position (member :: rest) items = .ok fields ↔
          ∃ value, member.Gives items[0]? value ∧
            ∃ later, inTurn expected (.closed stop) (position + 1) rest items.tail = .ok later ∧
              fields = (member.name, value) :: later := by
        cases items with
        | nil =>
            rw [inTurn, bind_eq_ok]
            simp only [Ending.reached, Except.ok.injEq, exists_eq_left', List.getElem?_nil,
              Member.Gives, Member.fallback?, List.tail_nil]
            cases habsence : member.absence with
            | required =>
                simp
            | optional =>
                exact absurd habsence hmember
            | default value =>
                simp only [Option.some.injEq, exists_eq_left']
                exact cons_eq_ok
        | cons item items =>
            rw [inTurn, bind_eq_ok]
            simp only [cons_eq_ok]
            rfl
      rw [hstep, fieldsAre_cons_iff]
      simp only [ih hrest htail, hhead]

/-- The part of an object with a known name is the only one. -/
theorem find?_isNamed
    {names : List String}
    {found : List (Key × Node)}
    (hfits : FitsMembers names found)
    {name : String}
    (hname : name ∈ names)
    {part : Key × Node}
    (hpart : part ∈ found)
    (htext : part.1.text = .ok name) :
    (found.find? fun part => part.1.isNamed name) = some part := by
  induction found with
  | nil =>
      cases hpart
  | cons first rest ih =>
      obtain ⟨hfirst, honce⟩ := List.pairwise_cons.mp hfits.once
      rcases List.mem_cons.mp hpart with rfl | hrest
      · exact List.find?_cons_of_pos (Key.isNamed_iff.mpr htext)
      · rw [List.find?_cons_of_neg]
        · exact ih ⟨(List.forall_mem_cons.mp hfits.readable).2, honce⟩ hrest
        · rw [Key.isNamed_iff]
          intro hsame
          exact hfirst part hrest name hname hsame htext

/-- What an object says of a member is what the part with its name gives. -/
theorem Named.gives_iff
    {found : List (Key × Node)}
    (hnamed : Named members [] found entries)
    {member : Member}
    (hmember : member ∈ members)
    {value : Value} :
    (entries.lookup member.name).or member.fallback? = some value ↔
      member.Gives ((found.find? fun part => part.1.isNamed member.name).map Prod.snd) value := by
  cases hfind : found.find? fun part => part.1.isNamed member.name with
  | none =>
      have hnone : entries.lookup member.name = none := by
        apply hnamed.absent
        intro part hpart htext
        exact List.find?_eq_none.mp hfind part hpart (Key.isNamed_iff.mpr htext)
      rw [hnone]
      rfl
  | some part =>
      have htext : part.1.isNamed member.name = true := by simpa using List.find?_some hfind
      obtain ⟨-, known, hread, hlookup⟩ := hnamed.present member hmember part
        (List.mem_of_find?_eq_some hfind) (Key.isNamed_iff.mp htext)
      rw [hlookup]
      change some known = some value ↔ member.reader part.2 = .ok value
      rw [hread]
      simp

theorem record_object_eq_ok_iff
    (hplain : Plain members)
    {name : String}
    {start : Nat}
    {found : List (Key × Node)}
    {ending : Ending}
    {value : Value} :
    record name members (.object start found ending) = .ok value ↔
      (FitsMembers (members.map Member.name) found ∧ ending.IsClosed) ∧
        ∃ fields, value = .object fields ∧
          FieldsAre (fun member => member.Gives
            ((found.find? fun part => part.1.isNamed member.name).map Prod.snd)) members fields := by
  have hcompleted : ∀ {entries stop fields}, Named members [] found entries →
      (completed stop entries members = .ok fields ↔
        FieldsAre (fun member => member.Gives
          ((found.find? fun part => part.1.isNamed member.name).map Prod.snd)) members fields) := by
    intro entries stop fields hnamed
    rw [completed_eq_ok_iff]
    exact fieldsAre_congr fun member hmember value => hnamed.gives_iff hmember
  simp only [record, bind_eq_ok]
  constructor
  · rintro ⟨entries, hentries, stop, hstop, fields, hfields, hvalue⟩
    have hnamed := named_sound hplain hentries
    exact ⟨⟨hnamed.fits, Ending.exists_reached_iff.mp ⟨stop, hstop⟩⟩, fields,
      (Except.ok.inj hvalue).symm, (hcompleted hnamed).mp hfields⟩
  · rintro ⟨⟨hfits, hclosed⟩, fields, rfl, hfields⟩
    have hpresent : ∀ member ∈ members, ∀ part ∈ found, part.1.text = .ok member.name →
        ([] : List (String × Value)).lookup member.name = none ∧
          ∃ value, member.reader part.2 = .ok value := by
      intro member hmember part hpart htext
      obtain ⟨value, -, hgives⟩ := hfields.lookup hplain.nodup hmember
      simp only [find?_isNamed hfits (List.mem_map_of_mem hmember) hpart htext] at hgives
      exact ⟨rfl, value, hgives⟩
    obtain ⟨entries, hentries⟩ := named_complete hplain hfits hpresent
    obtain ⟨stop, hstop⟩ := Ending.exists_reached_iff.mpr hclosed
    exact ⟨entries, hentries, stop, hstop, fields,
      (hcompleted (named_sound hplain hentries)).mpr hfields, rfl⟩

theorem record_list_eq_ok_iff
    (hplain : Plain members)
    {name : String}
    {start : Nat}
    {items : List Node}
    {ending : Ending}
    {value : Value} :
    record name members (.list start items ending) = .ok value ↔
      (items.length ≤ (members.map Member.name).length ∧ ending.IsClosed) ∧
        ∃ fields, value = .object fields ∧
          FieldsAre (fun member => member.Gives
            items[(members.map Member.name).idxOf member.name]?) members fields := by
  have hplace : ∀ i, (h : i < members.length) →
      items[(members.map Member.name).idxOf members[i].name]? = items[i]? := by
    intro i hi
    have hi' : i < (members.map Member.name).length := by simpa using hi
    have hname : members[i].name = (members.map Member.name)[i] := by simp
    rw [hname, hplain.nodup.idxOf_getElem]
  constructor
  · intro hrecord
    rw [record, bind_eq_ok] at hrecord
    obtain ⟨fields, hfields, hrecord⟩ := hrecord
    split at hrecord
    · next hdrop =>
        obtain ⟨stop, hstop, hvalue⟩ := bind_eq_ok.mp hrecord
        obtain ⟨place, rfl⟩ := Ending.exists_reachedAfterLast_iff.mp ⟨stop, hstop⟩
        exact ⟨⟨by simpa using hdrop, place, rfl⟩, fields, (Except.ok.inj hvalue).symm,
          (inTurn_eq_ok_iff hplain.decided hplace).mp hfields⟩
    · cases hrecord
  · rintro ⟨⟨hlength, stop, rfl⟩, fields, rfl, hfields⟩
    have hdrop : items.drop members.length = [] := by simpa using hlength
    rw [record, bind_eq_ok]
    refine ⟨fields, (inTurn_eq_ok_iff hplain.decided hplace).mpr hfields, ?_⟩
    rw [hdrop]
    rfl

/-- A node is read as a record if it fits and its parts give the fields. -/
theorem record_eq_ok_iff
    (hplain : Plain members)
    {name : String}
    {node : Node}
    {value : Value} :
    record name members node = .ok value ↔
      node.FitsRecord (members.map Member.name) ∧
        ∃ fields, value = .object fields ∧
          FieldsAre (fun member => member.Gives
            (node.part? (members.map Member.name) member.name)) members fields := by
  cases node with
  | object =>
      exact record_object_eq_ok_iff hplain
  | list =>
      exact record_list_eq_ok_iff hplain
  | _ =>
      constructor
      · intro hrecord
        cases hrecord
      · rintro ⟨⟨⟩, -⟩

end Record

end Reader

end Json
end CodeAudit
