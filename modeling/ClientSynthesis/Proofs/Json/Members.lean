import ClientSynthesis.Json.Document
import ClientSynthesis.Proofs.Json.Merge
import ClientSynthesis.Proofs.Report.Outcome

/-!
# The members of an object text

An object is read by storing one member after the other, so its fields do not tell how often a key
is written. Here the members are listed as they are written, with nothing stored (`readMembers`), by
the loop that reads objects. A text holds an object exactly if it has such a list, and the fields of
the object are these members merged (`parse_eq_ok_object_iff`).
-/

namespace ClientSynthesis.Json

open Report (bind_eq_ok_iff)

/-! ### Folding into another state -/

/-- A reading with its value replaced. -/
def Reading.map {α β : Type} (f : α → β) (reading : Reading α) : Reading β :=
  fun cs ↦ (reading cs).map fun (a, rest) ↦ (f a, rest)

/-- Entries can be folded into a state first, and the state be mapped when all of them are read. -/
theorem entries_map {σ τ : Type} {turn : Bool → List Char → Except Fault Turn}
    {entry : σ → Reading σ} {entry' : τ → Reading τ} {f : σ → τ}
    (h : ∀ state, entry' (f state) = (entry state).map f) (budget : Nat) (first : Bool)
    (state : σ) :
    entries turn entry' budget first (f state) = (entries turn entry budget first state).map f := by
  funext cs
  rw [Reading.map]
  induction budget generalizing first state cs with
  | zero => rfl
  | succ budget ih =>
    rw [entries, entries]
    cases turn first cs with
    | error fault => rfl
    | ok next =>
      cases next with
      | close rest => rfl
      | entry rest =>
        dsimp only
        rw [h state, Reading.map]
        cases entry state rest with
        | error fault => rfl
        | ok result => exact ih false result.1 result.2

theorem members_map {σ τ : Type} {member : σ → Reading σ} {member' : τ → Reading τ} {f : σ → τ}
    (h : ∀ state, member' (f state) = (member state).map f) (start : σ) :
    members member' (f start) = (members member start).map f :=
  funext fun cs ↦ congrFun (entries_map h (cs.length + 1) true start) cs

/-! ### Members as they are written -/

/-- A member behind the opening quotation mark of its key. -/
def readMember (levels : Nat) : Reading (String × Json) := fun cs ↦ do
  let (key, rest) ← stringBody cs
  let rest ← colon rest
  let (v, rest) ← value levels rest
  return ((key, v), rest)

/-- The members of an object text whose values have a number of levels, as they are written. -/
def readMembers (levels : Nat) : Reading (List (String × Json)) := fun cs ↦
  match skipSeparators cs with
  | '{' :: rest =>
    members (fun read ↦ (readMember levels).map fun member ↦ read ++ [member]) [] rest
  | _ => .error .mistyped

/-- The members of the object that a text holds, as they are written. -/
def writtenMembers (text : String) : Except Fault (List (String × Json)) :=
  whole (readMembers (nestingLimit - 1)) text

/-- A member, which is stored into fields. -/
def storeMember (levels : Nat) (fields : Fields) : Reading Fields := fun cs ↦ do
  let (key, rest) ← stringBody cs
  let rest ← colon rest
  let (v, rest) ← value levels rest
  return (fields.set key v, rest)

theorem value_of_brace {cs rest : List Char} (h : skipSeparators cs = '{' :: rest) (levels : Nat) :
    value (levels + 1) cs =
      (members (storeMember levels) [] rest).map fun (fields, rest) ↦ (.object fields, rest) := by
  rw [value, h]
  rfl

/-- Storing a member into those merged so far is merging one more. -/
theorem storeMember_merge (levels : Nat) (read : List (String × Json)) :
    storeMember levels (Fields.merge [] read) =
      ((readMember levels).map fun member ↦ read ++ [member]).map (Fields.merge []) := by
  funext cs
  simp only [Reading.map, readMember, storeMember]
  rcases stringBody cs with _ | ⟨key, rest⟩
  · rfl
  · dsimp only [bind, Except.bind]
    rcases colon rest with _ | rest
    · rfl
    · dsimp only
      rcases value levels rest with _ | ⟨v, rest⟩
      · rfl
      · exact congrArg (fun fields ↦ Except.ok (fields, rest))
          (Fields.merge_concat [] read key v).symm

/-! ### Texts that hold an object -/

/-- What is read as something else is no object. -/
theorem map_ne_object {α : Type} {x : Except Fault α} {f : α → Json × List Char}
    (h : ∀ a fields, (f a).1 ≠ .object fields) {fields : Fields} {rest : List Char} :
    x.map f ≠ .ok (.object fields, rest) := by
  intro heq
  cases x with
  | error fault => exact nomatch heq
  | ok a => exact h a fields (congrArg Prod.fst (Except.ok.inj heq))

theorem scalar_ne_object {cs rest : List Char} {fields : Fields} :
    scalar cs ≠ .ok (.object fields, rest) := by
  unfold scalar
  split
  · exact nofun
  · exact map_ne_object fun _ _ ↦ Json.noConfusion
  · exact map_ne_object fun _ _ ↦ Json.noConfusion
  · exact map_ne_object fun _ _ ↦ Json.noConfusion
  · exact map_ne_object fun _ _ ↦ Json.noConfusion
  · exact map_ne_object fun _ _ ↦ Json.noConfusion
  · split_ifs
    · exact map_ne_object fun _ _ ↦ Json.noConfusion
    · exact nofun

/-- A value is an object exactly if it can be read member by member, and then these are merged. -/
theorem value_eq_ok_object_iff {levels : Nat} {cs rest : List Char} {fields : Fields} :
    value (levels + 1) cs = .ok (.object fields, rest) ↔
      ∃ ms, readMembers levels cs = .ok (ms, rest) ∧ fields = Fields.merge [] ms := by
  by_cases hbrace : ∃ inside, skipSeparators cs = '{' :: inside
  · obtain ⟨inside, hcs⟩ := hbrace
    have hwritten : readMembers levels cs =
        members (fun read ↦ (readMember levels).map fun member ↦ read ++ [member]) [] inside := by
      unfold readMembers
      simp only [hcs]
    have hstored : members (storeMember levels) [] inside =
        (readMembers levels cs).map fun (ms, rest) ↦ (Fields.merge [] ms, rest) := by
      rw [hwritten]
      exact congrFun (members_map (storeMember_merge levels) []) inside
    rw [value_of_brace hcs, hstored]
    cases readMembers levels cs with
    | error fault => simp [Except.map]
    | ok result =>
      obtain ⟨ms, behind⟩ := result
      simp [Except.map, eq_comm, and_comm]
  · rw [not_exists] at hbrace
    constructor
    · intro h
      rw [value] at h
      split at h
      · exact absurd h (map_ne_object fun _ _ ↦ Json.noConfusion)
      · exact absurd ‹_› (hbrace _)
      · exact absurd h scalar_ne_object
    · rintro ⟨ms, h, -⟩
      unfold readMembers at h
      split at h
      · exact absurd ‹_› (hbrace _)
      · exact nomatch h

theorem whole_eq_ok_iff {α : Type} {reading : Reading α} {text : String} {a : α} :
    whole reading text = .ok a ↔
      ∃ rest, reading text.toList = .ok (a, rest) ∧ (skipSeparators rest).isEmpty = true := by
  rw [whole, bind_eq_ok_iff]
  constructor
  · rintro ⟨⟨b, rest⟩, hread, h⟩
    dsimp only at h
    split_ifs at h with hempty
    obtain rfl := Except.ok.inj h
    exact ⟨rest, hread, hempty⟩
  · rintro ⟨rest, hread, hempty⟩
    exact ⟨(a, rest), hread, if_pos hempty⟩

/-- **A text holds an object exactly if it can be read member by member**, and the fields of the
object are the members that are written, merged. -/
theorem parse_eq_ok_object_iff {text : String} {fields : Fields} :
    parse text = .ok (.object fields) ↔
      ∃ ms, writtenMembers text = .ok ms ∧ fields = Fields.merge [] ms := by
  simp only [parse, writtenMembers, whole_eq_ok_iff]
  constructor
  · rintro ⟨rest, hread, hempty⟩
    obtain ⟨ms, hms, rfl⟩ := value_eq_ok_object_iff.1 hread
    exact ⟨ms, ⟨rest, hms, hempty⟩, rfl⟩
  · rintro ⟨ms, ⟨rest, hms, hempty⟩, rfl⟩
    exact ⟨rest, value_eq_ok_object_iff.2 ⟨ms, hms, rfl⟩, hempty⟩

end ClientSynthesis.Json
