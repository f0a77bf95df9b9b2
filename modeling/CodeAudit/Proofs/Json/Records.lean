import CodeAudit.Finding.Record
import CodeAudit.Model.Answer
import CodeAudit.Proofs.Json.Numbers

/-!
# Members of records

Whichever way a record stands in the text, each of its members is read from a node of the text, or
is what the declaration says of a member that is absent.

**Results.**
* `Reader.record_declared`: where the members of a record that was read come from.
* `ne_nan_of_record`: a real number that a record may leave out is a number if it is there.
* `Answer.exists_of_read?`: what an answer says comes from its text in this way.
-/

namespace CodeAudit
namespace Json

theorem bind_eq_ok
    {α β : Type}
    {found : Except Fault α}
    {next : α → Except Fault β}
    {result : β} :
    found >>= next = .ok result ↔ ∃ value, found = .ok value ∧ next value = .ok result := by
  cases found with
  | error fault =>
    constructor
    · intro hbind
      cases hbind
    · rintro ⟨value, hvalue, -⟩
      cases hvalue
  | ok value =>
    constructor
    · intro hbind
      exact ⟨value, rfl, hbind⟩
    · rintro ⟨value, hvalue, hnext⟩
      cases hvalue
      exact hnext

theorem mem_of_lookup
    {key : String}
    {value : Value}
    {entries : List (String × Value)}
    (hlookup : entries.lookup key = some value) :
    (key, value) ∈ entries := by
  obtain ⟨before, after, rfl, -⟩ := List.lookup_eq_some_iff.mp hlookup
  simp

/-- A value that a member of a record can have. -/
def Member.Yields
    (member : Member)
    (value : Value) : Prop :=
  (∃ node, member.reader node = .ok value) ∨
    member.absence = .default value ∨
    member.absence = .optional ∧ value = .null

/-- An entry of a record belongs to one of the members. -/
def Declared
    (members : List Member)
    (entry : String × Value) : Prop :=
  ∃ member ∈ members, member.name = entry.1 ∧ member.Yields entry.2

theorem Declared.cons
    {member : Member}
    {members : List Member}
    {entry : String × Value}
    (hdeclared : Declared members entry) :
    Declared (member :: members) entry := by
  obtain ⟨owner, hmem, hname, hyields⟩ := hdeclared
  exact ⟨owner, List.mem_cons_of_mem _ hmem, hname, hyields⟩

namespace Reader

variable {members : List Member} {read entries : List (String × Value)}

theorem named_declared
    {found : List (Key × Node)}
    (hread : ∀ entry ∈ read, Declared members entry)
    (hnamed : named members read found = .ok entries) :
    ∀ entry ∈ entries, Declared members entry := by
  -- Each member that is read is put in front of those read before.
  induction found generalizing read with
  | nil =>
    obtain rfl : read = entries := Except.ok.inj hnamed
    exact hread
  | cons head rest ih =>
    rw [named, bind_eq_ok] at hnamed
    obtain ⟨text, -, hnamed⟩ := hnamed
    split at hnamed
    · split at hnamed
      · cases hnamed
      · exact ih hread hnamed
    · next member hfind =>
      split at hnamed
      · cases hnamed
      · obtain ⟨value, hvalue, hrest⟩ := bind_eq_ok.mp hnamed
        refine ih ?_ hrest
        rw [List.forall_mem_cons]
        exact ⟨⟨member, List.mem_of_find?_eq_some hfind, rfl, .inl ⟨_, hvalue⟩⟩, hread⟩

theorem completed_declared
    {stop : Nat}
    {all : List Member}
    (hread : ∀ entry ∈ read, Declared all entry)
    (hall : ∀ member ∈ members, member ∈ all)
    (hcompleted : completed stop read members = .ok entries) :
    ∀ entry ∈ entries, Declared all entry := by
  -- What was read belongs to any of the members, so the induction leaves `all` as it is.
  induction members generalizing entries with
  | nil =>
    obtain rfl : [] = entries := Except.ok.inj hcompleted
    simp
  | cons member rest ih =>
    rw [List.forall_mem_cons] at hall
    have hcons : ∀ {value},
        Declared all (member.name, value) →
          (do return (member.name, value) :: (← completed stop read rest)) =
              (.ok entries : Except Fault (List (String × Value))) →
            ∀ entry ∈ entries, Declared all entry := by
      intro value hdeclared hreturned
      obtain ⟨later, hlater, hentries⟩ := bind_eq_ok.mp hreturned
      obtain rfl : (member.name, value) :: later = entries := Except.ok.inj hentries
      rw [List.forall_mem_cons]
      exact ⟨hdeclared, ih hall.2 hlater⟩
    rw [completed] at hcompleted
    split at hcompleted
    · next value hlookup =>
      exact hcons (hread _ (mem_of_lookup hlookup)) hcompleted
    · cases hcompleted
    · next hoptional =>
      exact hcons ⟨member, hall.1, rfl, .inr (.inr ⟨hoptional, rfl⟩)⟩ hcompleted
    · next value hdefault =>
      exact hcons ⟨member, hall.1, rfl, .inr (.inl hdefault)⟩ hcompleted

theorem inTurn_declared
    {expected : String}
    {ending : Ending}
    {position : Nat}
    {items : List Node}
    (hinTurn : inTurn expected ending position members items = .ok entries) :
    ∀ entry ∈ entries, Declared members entry := by
  induction members generalizing position items entries with
  | nil =>
    obtain rfl : [] = entries := by
      cases items <;> exact Except.ok.inj hinTurn
    simp
  | cons member rest ih =>
    have hcons : ∀ {value later position items},
        member.Yields value →
          inTurn expected ending position rest items = .ok later →
            (member.name, value) :: later = entries →
              ∀ entry ∈ entries, Declared (member :: rest) entry := by
      rintro value later position items hyields hlater rfl
      rw [List.forall_mem_cons]
      exact ⟨⟨member, List.mem_cons_self, rfl, hyields⟩,
        fun entry hentry => (ih hlater entry hentry).cons⟩
    cases items with
    | nil =>
      rw [inTurn, bind_eq_ok] at hinTurn
      obtain ⟨stop, -, hinTurn⟩ := hinTurn
      split at hinTurn
      · next value hdefault =>
        obtain ⟨later, hlater, hentries⟩ := bind_eq_ok.mp hinTurn
        exact hcons (.inr (.inl hdefault)) hlater (Except.ok.inj hentries)
      · cases hinTurn
    | cons item items =>
      rw [inTurn, bind_eq_ok] at hinTurn
      obtain ⟨value, hvalue, hinTurn⟩ := hinTurn
      obtain ⟨later, hlater, hentries⟩ := bind_eq_ok.mp hinTurn
      exact hcons (.inl ⟨item, hvalue⟩) hlater (Except.ok.inj hentries)

/-- What a record yields is an object whose entries belong to its members. -/
theorem record_declared
    {name : String}
    {node : Node}
    {value : Value}
    (hrecord : record name members node = .ok value) :
    ∃ entries, value = .object entries ∧ ∀ entry ∈ entries, Declared members entry := by
  unfold record at hrecord
  split at hrecord
  · obtain ⟨read, hnamed, hrecord⟩ := bind_eq_ok.mp hrecord
    obtain ⟨stop, -, hrecord⟩ := bind_eq_ok.mp hrecord
    obtain ⟨entries, hcompleted, hvalue⟩ := bind_eq_ok.mp hrecord
    exact ⟨entries, (Except.ok.inj hvalue).symm,
      completed_declared (named_declared (by simp) hnamed) (fun _ hmem => hmem) hcompleted⟩
  · obtain ⟨entries, hinTurn, hrecord⟩ := bind_eq_ok.mp hrecord
    split at hrecord
    · obtain ⟨stop, -, hvalue⟩ := bind_eq_ok.mp hrecord
      exact ⟨entries, (Except.ok.inj hvalue).symm, inTurn_declared hinTurn⟩
    · cases hrecord
  · cases hrecord

/-- A member that was read has a value that the member of this name can have. -/
theorem record_member
    {name key : String}
    {node : Node}
    {value found : Value}
    (hrecord : record name members node = .ok value)
    (hfound : value.member? key = some found) :
    Declared members (key, found) := by
  obtain ⟨entries, rfl, hdeclared⟩ := record_declared hrecord
  exact hdeclared _ (mem_of_lookup hfound)

end Reader

/-- A member that may be a real number. -/
def realMember
    (name : String) : Member :=
  .defaulted name .null (Reader.optional Reader.real)

theorem ne_nan_of_realMember
    {name : String}
    {value : Value}
    {x : Floating}
    (hyields : (realMember name).Yields value)
    (hreal : value.asOption? Value.asReal? = some (some x)) :
    x ≠ .nan := by
  rcases hyields with ⟨node, hread⟩ | hdefault | ⟨hoptional, -⟩
  · change Reader.optional Reader.real node = .ok value at hread
    unfold Reader.optional at hread
    split at hread
    · obtain rfl : Value.null = value := Except.ok.inj hread
      cases hreal
    · obtain ⟨y, rfl, hy⟩ := Reader.real_yields hread
      obtain rfl : y = x := by simpa [Value.asOption?, Value.asReal?] using hreal
      exact hy
  · obtain rfl : Value.null = value := by simpa [realMember, Member.defaulted] using hdefault
    cases hreal
  · simp [realMember, Member.defaulted] at hoptional

/-- A real number that a record may leave out is a number if it is there. -/
theorem ne_nan_of_record
    (key : String)
    {name : String}
    {members : List Member}
    {node : Node}
    {value : Value}
    {x : Floating}
    (hkey : (members.filter fun member => member.name == key) = [realMember key])
    (hrecord : Reader.record name members node = .ok value)
    (hreal : value.field? key (Value.asOption? Value.asReal?) = some (some x)) :
    x ≠ .nan := by
  obtain ⟨found, hfound, hdecoded⟩ := Option.bind_eq_some_iff.mp hreal
  obtain ⟨member, hmem, hname, hyields⟩ := Reader.record_member hrecord hfound
  have honly : member ∈ members.filter fun member => member.name == key :=
    List.mem_filter.mpr ⟨hmem, beq_iff_eq.mpr hname⟩
  rw [hkey, List.mem_singleton] at honly
  subst honly
  exact ne_nan_of_realMember hyields hdecoded

end Json

/-- What an answer says was read from a node of its text. -/
theorem Answer.exists_of_read?
    {α : Type}
    {reader : Json.Reader}
    {ofValue? : Json.Value → Option α}
    {answer : String}
    {said : α}
    (hread : Answer.read? reader ofValue? answer = some said) :
    ∃ node value, reader node = .ok value ∧ ofValue? value = some said := by
  obtain ⟨object, -, hparsed⟩ := Option.bind_eq_some_iff.mp hread
  cases hparse : reader.parse object with
  | error fault =>
    rw [hparse] at hparsed
    cases hparsed
  | ok value =>
    rw [hparse] at hparsed
    rw [Json.Reader.parse, Json.bind_eq_ok] at hparse
    obtain ⟨parsed, hnode, hparse⟩ := hparse
    split at hparse
    · cases hparse
    · obtain rfl : parsed = value := Except.ok.inj hparse
      exact ⟨_, parsed, hnode, hparsed⟩

end CodeAudit
