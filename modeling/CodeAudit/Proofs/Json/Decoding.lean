import CodeAudit.Proofs.Json.Schema

/-!
# What nodes say

A reader is told by the nodes that it accepts and by what each of them says.  `Decodes` relates a
reader, together with the function that takes its values apart, to such a relation: whatever is read
says something, and whatever says something is read.  Readers that are put together decode what their
parts decode: of a list its items, of a record its members.

**Results.**
* `Decodes.text`, `Decodes.real`, `Decodes.list`, `Decodes.optional`: values without names.
* `Decodes.required`, `Decodes.defaulted`: members of a record.
* `IsRecord.exists_field`, `IsRecord.field_eq`: a field is what the part with its name says.
* `Decodes.record`: records.
-/

namespace CodeAudit
namespace Json

/-! ## What nodes say -/

namespace Node

/-- A node is a text. -/
inductive IsText : Node → String → Prop
  | text
      (content : String)
      (start stop : Nat) :
      IsText (.text (.ok content) start stop) content

/-- A node is a number. -/
inductive IsReal : Node → Floating → Prop
  | integer
      {numeral : Numeral}
      {n : Int}
      (start stop : Nat)
      (hvalue : numeral.value = .integer n) :
      IsReal (.number numeral start stop) (.ofRat n)
  | real
      {numeral : Numeral}
      {x : Floating}
      (start stop : Nat)
      (hvalue : numeral.value = .real x) :
      IsReal (.number numeral start stop) x

variable {α : Type}

/-- A node is a list, and its items say these things. -/
inductive IsList (Says : Node → α → Prop) : Node → List α → Prop
  | list
      {items : List Node}
      {xs : List α}
      (start stop : Nat)
      (hitems : List.Forall₂ Says items xs) :
      IsList Says (.list start items (.closed stop)) xs

/-- A node says something, or is `null` and says nothing. -/
inductive OrNull (Says : Node → α → Prop) : Node → Option α → Prop
  | null
      (start stop : Nat) :
      OrNull Says (.null start stop) none
  | some
      {node : Node}
      {x : α}
      (hsaid : Says node x) :
      OrNull Says node (.some x)

/-- A part is there and says something. -/
inductive Present (Says : Node → α → Prop) : Option Node → α → Prop
  | present
      {node : Node}
      {x : α}
      (hsaid : Says node x) :
      Present Says (.some node) x

/-- A part says something, or it is absent and something else is said in its place. -/
inductive PresentOr (fallback : α) (Says : Node → α → Prop) : Option Node → α → Prop
  | absent :
      PresentOr fallback Says none fallback
  | present
      {node : Node}
      {x : α}
      (hsaid : Says node x) :
      PresentOr fallback Says (.some node) x

theorem exists_of_forall₂
    {Says : Node → α → Prop}
    {items : List Node}
    {xs : List α}
    (hitems : List.Forall₂ Says items xs)
    {item : Node}
    (hitem : item ∈ items) :
    ∃ x, Says item x := by
  induction hitems with
  | nil =>
      cases hitem
  | cons hfirst _ ih =>
      rcases List.mem_cons.mp hitem with rfl | hrest
      · exact ⟨_, hfirst⟩
      · exact ih hrest

/-- Every item of a list says something. -/
theorem PresentOr.exists_of_mem
    {Says : Node → α → Prop}
    {list : Node}
    {fallback xs : List α}
    (hlist : PresentOr fallback (IsList Says) (.some list) xs)
    {item : Node}
    (hitem : item ∈ list.items) :
    ∃ x, Says item x := by
  cases hlist with
  | present hlist =>
      cases hlist with
      | list _ _ hitems =>
          exact exists_of_forall₂ hitems hitem

end Node

/-- A reader, with the function that takes its values apart, accepts what says something, and reads
what it says. -/
structure Decodes
    {σ α : Type}
    (Gives : σ → Value → Prop)
    (decode : Value → Option α)
    (Says : σ → α → Prop) : Prop where
  sound : ∀ {source value}, Gives source value → ∃ x, decode value = some x ∧ Says source x
  complete : ∀ {source x}, Says source x → ∃ value, Gives source value ∧ decode value = some x

namespace Decodes

theorem exists_gives
    {σ α : Type}
    {Gives : σ → Value → Prop}
    {decode : Value → Option α}
    {Says : σ → α → Prop}
    (hdecodes : Decodes Gives decode Says)
    {source : σ}
    {x : α}
    (hsaid : Says source x) :
    ∃ value, Gives source value :=
  (hdecodes.complete hsaid).imp fun _ hvalue => hvalue.1

/-- A node says one thing at most. -/
theorem unique
    {α : Type}
    {reader : Reader}
    {decode : Value → Option α}
    {Says : Node → α → Prop}
    (hdecodes : Decodes reader.Gives decode Says)
    {node : Node}
    {x x' : α}
    (hsaid : Says node x)
    (hsaid' : Says node x') :
    x = x' := by
  obtain ⟨value, hvalue, hx⟩ := hdecodes.complete hsaid
  obtain ⟨value', hvalue', hx'⟩ := hdecodes.complete hsaid'
  obtain rfl : value = value' := Except.ok.inj (hvalue.symm.trans hvalue')
  exact Option.some.inj (hx.symm.trans hx')

theorem text : Decodes Reader.text.Gives Value.asText? Node.IsText where
  sound := by
    intro node value hgives
    cases node with
    | text content start stop =>
        cases content with
        | ok content =>
            obtain rfl : Value.text content = value := Except.ok.inj hgives
            exact ⟨content, rfl, Node.IsText.text content start stop⟩
        | error fault =>
            cases hgives
    | _ =>
        cases hgives
  complete := by
    intro node content hsaid
    cases hsaid with
    | text start stop =>
        exact ⟨.text content, rfl, rfl⟩

theorem real : Decodes Reader.real.Gives Value.asReal? Node.IsReal where
  sound := by
    intro node value hgives
    cases node with
    | number numeral start stop =>
        rw [Reader.Gives, Reader.real] at hgives
        split at hgives
        · next hvalue =>
            obtain rfl := Except.ok.inj hgives
            exact ⟨_, rfl, Node.IsReal.integer start stop hvalue⟩
        · next hvalue =>
            obtain rfl := Except.ok.inj hgives
            exact ⟨_, rfl, Node.IsReal.real start stop hvalue⟩
        · cases hgives
    | _ =>
        cases hgives
  complete := by
    intro node x hsaid
    cases hsaid with
    | integer start stop hvalue =>
        exact ⟨_, by rw [Reader.Gives, Reader.real, hvalue], rfl⟩
    | real start stop hvalue =>
        exact ⟨_, by rw [Reader.Gives, Reader.real, hvalue], rfl⟩

variable {α : Type} {reader : Reader} {decode : Value → Option α} {Says : Node → α → Prop}

theorem mapM_sound
    (hdecodes : Decodes reader.Gives decode Says)
    {items : List Node}
    {values : List Value}
    (hread : items.mapM reader = .ok values) :
    ∃ xs, values.mapM decode = some xs ∧ List.Forall₂ Says items xs := by
  induction items generalizing values with
  | nil =>
      obtain rfl : [] = values := Except.ok.inj hread
      exact ⟨[], rfl, List.Forall₂.nil⟩
  | cons item items ih =>
      rw [List.mapM_cons, bind_eq_ok] at hread
      obtain ⟨value, hvalue, hread⟩ := hread
      obtain ⟨later, hlater, hvalues⟩ := bind_eq_ok.mp hread
      obtain rfl : value :: later = values := Except.ok.inj hvalues
      obtain ⟨x, hx, hsaid⟩ := hdecodes.sound hvalue
      obtain ⟨xs, hxs, hitems⟩ := ih hlater
      refine ⟨x :: xs, ?_, List.Forall₂.cons hsaid hitems⟩
      rw [List.mapM_cons, hx, hxs]
      rfl

theorem mapM_complete
    (hdecodes : Decodes reader.Gives decode Says)
    {items : List Node}
    {xs : List α}
    (hitems : List.Forall₂ Says items xs) :
    ∃ values, items.mapM reader = .ok values ∧ values.mapM decode = some xs := by
  induction hitems with
  | nil =>
      exact ⟨[], rfl, rfl⟩
  | @cons item x items xs hsaid _ ih =>
      obtain ⟨value, hvalue, hx⟩ := hdecodes.complete hsaid
      obtain ⟨values, hvalues, hxs⟩ := ih
      refine ⟨value :: values, ?_, ?_⟩
      · rw [List.mapM_cons, hvalue, hvalues]
        rfl
      · rw [List.mapM_cons, hx, hxs]
        rfl

theorem list
    (hdecodes : Decodes reader.Gives decode Says) :
    Decodes (Reader.list reader).Gives (Value.asListOf? decode) (Node.IsList Says) where
  sound := by
    intro node value hgives
    cases node with
    | list start items ending =>
        rw [Reader.Gives, Reader.list, bind_eq_ok] at hgives
        obtain ⟨values, hvalues, hgives⟩ := hgives
        obtain ⟨stop, hstop, hvalue⟩ := bind_eq_ok.mp hgives
        obtain rfl : Value.list values = value := Except.ok.inj hvalue
        obtain ⟨place, rfl⟩ := Ending.exists_reached_iff.mp ⟨stop, hstop⟩
        obtain ⟨xs, hxs, hitems⟩ := hdecodes.mapM_sound hvalues
        exact ⟨xs, hxs, Node.IsList.list start place hitems⟩
    | _ =>
        cases hgives
  complete := by
    intro node xs hsaid
    cases hsaid with
    | list start stop hitems =>
        obtain ⟨values, hvalues, hxs⟩ := hdecodes.mapM_complete hitems
        refine ⟨.list values, ?_, hxs⟩
        rw [Reader.Gives, Reader.list, hvalues]
        rfl

theorem asOption?_of_decode
    (hdecode : decode .null = none)
    {value : Value}
    {x : α}
    (hx : decode value = some x) :
    value.asOption? decode = some (some x) := by
  cases value with
  | null =>
      rw [hdecode] at hx
      cases hx
  | _ =>
      simp [Value.asOption?, hx]

/-- A reader that may find `null`, if nothing else is `null` for it. -/
theorem optional
    (hdecodes : Decodes reader.Gives decode Says)
    (hdecode : decode .null = none)
    (hnull : ∀ start stop x, ¬ Says (.null start stop) x) :
    Decodes (Reader.optional reader).Gives (Value.asOption? decode) (Node.OrNull Says) where
  sound := by
    intro node value hgives
    rw [Reader.Gives, Reader.optional.eq_def] at hgives
    split at hgives
    · next start stop =>
        obtain rfl : Value.null = value := Except.ok.inj hgives
        exact ⟨none, rfl, Node.OrNull.null start stop⟩
    · obtain ⟨x, hx, hsaid⟩ := hdecodes.sound hgives
      exact ⟨some x, asOption?_of_decode hdecode hx, Node.OrNull.some hsaid⟩
  complete := by
    intro node x hsaid
    cases hsaid with
    | null start stop =>
        exact ⟨.null, rfl, rfl⟩
    | some hsaid =>
        obtain ⟨value, hvalue, hx⟩ := hdecodes.complete hsaid
        refine ⟨value, ?_, asOption?_of_decode hdecode hx⟩
        cases node with
        | null start stop =>
            exact absurd hsaid (hnull start stop _)
        | _ =>
            exact hvalue

theorem required
    (hdecodes : Decodes reader.Gives decode Says)
    (name : String) :
    Decodes (Member.required name reader).Gives decode (Node.Present Says) where
  sound := by
    intro part value hgives
    cases part with
    | none =>
        cases hgives
    | some node =>
        obtain ⟨x, hx, hsaid⟩ := hdecodes.sound hgives
        exact ⟨x, hx, Node.Present.present hsaid⟩
  complete := by
    intro part x hsaid
    cases hsaid with
    | present hsaid =>
        exact hdecodes.complete hsaid

theorem defaulted
    (hdecodes : Decodes reader.Gives decode Says)
    (name : String)
    (value : Value)
    {fallback : α}
    (hfallback : decode value = some fallback) :
    Decodes (Member.defaulted name value reader).Gives decode
      (Node.PresentOr fallback Says) where
  sound := by
    intro part found hgives
    cases part with
    | none =>
        obtain rfl : value = found := Option.some.inj hgives
        exact ⟨fallback, hfallback, Node.PresentOr.absent⟩
    | some node =>
        obtain ⟨x, hx, hsaid⟩ := hdecodes.sound hgives
        exact ⟨x, hx, Node.PresentOr.present hsaid⟩
  complete := by
    intro part x hsaid
    cases hsaid with
    | absent =>
        exact ⟨value, rfl, hfallback⟩
    | present hsaid =>
        exact hdecodes.complete hsaid

end Decodes

/-! ## Fields of a record -/

/-- A value is the record that a node stands for. -/
structure IsRecord
    (members : List Member)
    (node : Node)
    (value : Value) : Prop where
  plain : Plain members
  fits : node.FitsRecord (members.map Member.name)
  fields : ∃ fields, value = .object fields ∧
    FieldsAre (fun member => member.Gives
      (node.part? (members.map Member.name) member.name)) members fields

section Fields

variable {members : List Member} {member : Member} {α : Type}
variable {node : Node} {value : Value}

section Field

variable {decode : Value → Option α} {Says : Option Node → α → Prop}

/-- Every field of a record is what the part with its name says. -/
theorem IsRecord.exists_field
    (hrecord : IsRecord members node value)
    (hdecodes : Decodes member.Gives decode Says)
    (hmember : member ∈ members) :
    ∃ x, value.field? member.name decode = some x ∧
      Says (node.part? (members.map Member.name) member.name) x := by
  obtain ⟨fields, rfl, hfields⟩ := hrecord.fields
  obtain ⟨found, hfound, hgives⟩ := hfields.lookup hrecord.plain.nodup hmember
  obtain ⟨x, hx, hsaid⟩ := hdecodes.sound hgives
  refine ⟨x, ?_, hsaid⟩
  rw [Value.field?, Value.member?, hfound]
  exact hx

/-- What the part with a name says is the field. -/
theorem IsRecord.field_eq
    (hrecord : IsRecord members node value)
    (hdecodes : Decodes member.Gives decode Says)
    (hmember : member ∈ members)
    {x : α}
    (hsaid : Says (node.part? (members.map Member.name) member.name) x) :
    value.field? member.name decode = some x := by
  obtain ⟨fields, rfl, hfields⟩ := hrecord.fields
  obtain ⟨found, hfound, hgives⟩ := hfields.lookup hrecord.plain.nodup hmember
  obtain ⟨found', hgives', hx⟩ := hdecodes.complete hsaid
  obtain rfl := hgives.unique hgives'
  rw [Value.field?, Value.member?, hfound]
  exact hx

end Field

/-- A node that fits is a record if each of its parts is read. -/
theorem exists_isRecord
    (hplain : Plain members)
    (hfits : node.FitsRecord (members.map Member.name))
    (hparts : ∀ member ∈ members, ∃ value,
      member.Gives (node.part? (members.map Member.name) member.name) value) :
    ∃ value, IsRecord members node value := by
  obtain ⟨fields, hfields⟩ := exists_fieldsAre hparts
  exact ⟨.object fields, hplain, hfits, fields, rfl, hfields⟩

/-- A record decodes what its parts say together. -/
theorem Decodes.record
    {name : String}
    {ofValue? : Value → Option α}
    {Says : Node → α → Prop}
    (hplain : Plain members)
    (hsound : ∀ {node value}, IsRecord members node value →
      ∃ x, ofValue? value = some x ∧ Says node x)
    (hfits : ∀ {node x}, Says node x →
      node.FitsRecord (members.map Member.name) ∧
        ∀ member ∈ members, ∃ value,
          member.Gives (node.part? (members.map Member.name) member.name) value)
    (hcomplete : ∀ {node value x}, IsRecord members node value → Says node x →
      ofValue? value = some x) :
    Decodes (Reader.record name members).Gives ofValue? Says where
  sound := by
    intro node value hgives
    obtain ⟨hfits, hfields⟩ := (Reader.record_eq_ok_iff hplain).mp hgives
    exact hsound ⟨hplain, hfits, hfields⟩
  complete := by
    intro node x hsaid
    obtain ⟨hnode, hparts⟩ := hfits hsaid
    obtain ⟨value, hrecord⟩ := exists_isRecord hplain hnode hparts
    exact ⟨value, (Reader.record_eq_ok_iff hplain).mpr ⟨hnode, hrecord.fields⟩,
      hcomplete hrecord hsaid⟩

end Fields

/-- A text is read if its node is and nothing follows. -/
theorem Reader.parse_eq_ok_iff
    {reader : Reader}
    {text : String}
    {value : Value} :
    reader.parse text = .ok value ↔
      reader (document text).node = .ok value ∧ (document text).trailing = none := by
  rw [parse]
  simp only [bind_eq_ok]
  cases (document text).trailing with
  | some place =>
      simp
  | none =>
      constructor
      · rintro ⟨found, hfound, hvalue⟩
        obtain rfl : found = value := Except.ok.inj hvalue
        exact ⟨hfound, rfl⟩
      · rintro ⟨hvalue, -⟩
        exact ⟨value, hvalue, rfl⟩

end Json
end CodeAudit
