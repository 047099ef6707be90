import Snowflake.Json.Codec

/-!
# What is accepted

A codec writes a value in one way, but its readers accept more than that: blanks, other members of
an object, arrays in place of objects. Read backwards, a reader that succeeds tells what it found. A
row of one field was an array with the value of the field, or an object that has it: in one pass
behind its key and behind members that were passed over, in a value among members of which the
other ones with that key, if there are any, are accepted too.

Results:
* `Codec.ofText_accepts_iff`, `Codec.ofWholeText_accepts_iff`: when a text is read.
* `Value.eq_of_ofTokens?_string`: only a string token spells a string.
* **`readRecord_cases`**, **`recordOfValue_cases`**: what a row of one field was read from.
-/

namespace Snowflake.Json

/-! ## Texts -/

namespace Codec

variable {α : Type} {codec : Codec α} {text : String} {a : α}

/-- One pass succeeds if it ends with the last token. -/
theorem ofText_accepts_iff :
    codec.ofText text = .ok a ↔ codec.read (tokens text.toList) = .ok (a, []) := by
  unfold ofText
  constructor
  · intro h
    split at h
    · exact absurd h (by simp)
    · rename_i hread
      rw [hread, Except.ok.inj h]
    · exact absurd h (by simp)
  · intro h
    rw [h]

/-- A whole text is read if it spells a value that is. -/
theorem ofWholeText_accepts_iff :
    codec.ofWholeText text = .ok a ↔
      ∃ value, Value.ofTokens? (tokens text.toList) = some value ∧ codec.ofValue value = .ok a := by
  unfold ofWholeText
  constructor
  · intro h
    split at h
    · exact absurd h (by simp)
    · rename_i value hvalue
      split at h
      · exact absurd h (by simp)
      · rename_i hread
        exact ⟨value, hvalue, by rw [hread, Except.ok.inj h]⟩
  · rintro ⟨value, hvalue, hread⟩
    simp only [hvalue, hread]

end Codec

/-! ## Values of one token -/

namespace Value

/-- An array or an object. -/
inductive Composite : Value → Prop where
  | array (items : List Value) : Composite (.array items)
  | object (members : List (String × Value)) : Composite (.object members)

/-- Tokens that are read while a container is open make no value that is not a container. -/
theorem composite_of_open :
    (∀ stack list, stack ≠ [] → ∀ value, expect stack list = some value → value.Composite) ∧
      ∀ stack inner list, stack ≠ [] ∨ inner.Composite →
        ∀ value, complete stack inner list = some value → value.Composite := by
  -- The induction is on the two functions at once: `complete` leaves a container only by making one.
  apply Value.expect.mutual_induct
  case case7 =>
    intro stack rest hrest hroom ih _ value h
    rw [expect, if_pos hroom] at h
    · exact ih (List.cons_ne_nil _ _) value h
    · exact hrest
  case case11 =>
    intro stack key rest hroom ih _ value h
    rw [expect, if_pos hroom] at h
    exact ih (List.cons_ne_nil _ _) value h
  case case14 =>
    intro inner hinner value h
    obtain rfl := Option.some.inj h
    exact hinner.resolve_left (by simp)
  case case16 =>
    intro done stack inner rest ih _ value h
    exact ih (.inr (.array _)) value h
  case case18 =>
    intro done key stack inner rest ih _ value h
    exact ih (.inr (.object _)) value h
  case case6 | case10 =>
    intro stack rest hroom _ value h
    rw [expect, if_neg hroom] at h
    exact absurd h (by simp)
  case case8 =>
    intro stack rest hrest hroom _ value h
    rw [expect, if_neg hroom] at h
    · exact absurd h (by simp)
    · exact hrest
  case case12 =>
    intro stack key rest hroom _ value h
    rw [expect, if_neg hroom] at h
    exact absurd h (by simp)
  -- The other cases go on in the same container or do not go on.
  all_goals
    intros
    simp_all [expect, complete]

/-- Only a string token spells a string. -/
theorem eq_of_ofTokens?_string {list : List Token} {s : String}
    (h : ofTokens? list = some (.string s)) : list = [.string (some s)] := by
  have hinner : ∀ frame list, expect [frame] list ≠ some (.string s) := fun frame list h =>
    nomatch composite_of_open.1 [frame] list (by simp) _ h
  have houter : ∀ value list, complete [] value list = some (.string s) →
      value = .string s ∧ list = [] := by
    intro value list h
    cases list with
    | nil => exact ⟨Option.some.inj h, rfl⟩
    | cons => exact absurd h (by simp [complete])
  unfold ofTokens? expect at h
  split at h
  case h_4 value rest =>
    obtain ⟨hvalue, rfl⟩ := houter _ _ h
    rw [Value.string.inj hvalue]
  case h_5 | h_7 =>
    split at h
    · exact nomatch (houter _ _ h).1
    · exact absurd h (by simp)
  case h_6 | h_8 =>
    split at h
    · exact absurd h (hinner _ _)
    · exact absurd h (by simp)
  case h_9 => exact absurd h (by simp)
  all_goals exact nomatch (houter _ _ h).1

end Value

theorem exists_found_of_readFound {α : Type} {rule : Found → Except Mismatch α}
    {list rest : List Token} {a : α} (h : readFound rule list = .ok (a, rest)) :
    ∃ token found, list = token :: rest ∧ token.found? = some found ∧ rule found = .ok a := by
  unfold readFound at h
  split at h
  · exact absurd h (by simp)
  · rename_i token list
    split at h
    · exact absurd h (by simp)
    · rename_i found hfound
      split at h
      · exact absurd h (by simp)
      · rename_i b hrule
        obtain ⟨rfl, rfl⟩ := Prod.mk.inj (Except.ok.inj h)
        exact ⟨token, found, rfl, hfound, hrule⟩

theorem token_of_found?_string {token : Token} {s : String}
    (h : token.found? = some (.string s)) : token = .string (some s) := by
  cases token with
  | string value =>
    obtain ⟨s', rfl, hs⟩ := Option.map_eq_some_iff.mp h
    rw [Found.string.inj hs]
  | number value =>
    obtain ⟨n, -, hn⟩ := Option.map_eq_some_iff.mp h
    exact absurd hn (by simp)
  | _ => exact absurd h (by simp [Token.found?])

/-! ## Rows of one field -/

/-- Members of an object, none of them under the key `name`, are passed over one by one, each with
the comma behind it. -/
inductive Passes (name : String) : List Token → List Token → Prop where
  | here (list : List Token) : Passes name list list
  | member {key : String} {list rest back : List Token} (hkey : key ≠ name)
      (hskip : skip list = some (.comma :: rest)) (h : Passes name rest back) :
      Passes name (.string (some key) :: .colon :: list) back

namespace Fields

variable {α : Type} {name : String} {codec : Codec α} {value? : Option α}
  {draft : Draft [α]} {list rest : List Token}

/-- A member of a row of one field is the field, if it is still without a value, or is passed
over. -/
theorem readMember_cases {key : String}
    (h : (cons name codec nil).readMember key (value?, ()) list = .ok (draft, rest)) :
    (key = name ∧ value? = none ∧
      ∃ a value, list = .colon :: value ∧ codec.read value = .ok (a, rest) ∧
        draft = (some a, ())) ∨
    (key ≠ name ∧ draft = (value?, ()) ∧
      ∃ value, list = .colon :: value ∧ skip value = some rest) := by
  unfold readMember at h
  by_cases hkey : key = name
  · refine .inl ⟨hkey, ?_⟩
    simp only [readField, if_pos hkey] at h
    split at h
    · exact absurd h (by simp)
    · rename_i value
      cases hread : codec.read value with
      | error failure =>
        rw [hread] at h
        exact absurd h (by simp)
      | ok found =>
        obtain ⟨a, rest'⟩ := found
        rw [hread] at h
        obtain ⟨rfl, rfl⟩ := Prod.mk.inj (Except.ok.inj h)
        exact ⟨rfl, a, value, rfl, hread, rfl⟩
    · exact absurd h (by simp)
  · refine .inr ⟨hkey, ?_⟩
    simp only [readField, if_neg hkey, Option.map_none] at h
    split at h
    · rename_i value
      split at h
      · exact absurd h (by simp)
      · rename_i hskip
        obtain ⟨rfl, rfl⟩ := Prod.mk.inj (Except.ok.inj h)
        exact ⟨rfl, value, rfl, hskip⟩
    · exact absurd h (by simp)

/-- The members of an object end, or the first of them is read and the others after it. -/
theorem readMembers_cases {types : List Type} {fields : Fields types} {fuel : Nat} {first : Bool}
    {draft draft' : Draft types} (h : fields.readMembers fuel first draft list = .ok (draft', rest)) :
    draft' = draft ∨ ∃ fuel' key member mid more, fuel = fuel' + 1 ∧
      list = (if first then [] else [.comma]) ++ .string (some key) :: member ∧
      fields.readMember key draft member = .ok (mid, more) ∧
      fields.readMembers fuel' false mid more = .ok (draft', rest) := by
  cases fuel with
  | zero => exact absurd h (by simp [readMembers])
  | succ fuel =>
    unfold readMembers at h
    split at h
    · exact .inl (Prod.mk.inj (Except.ok.inj h)).1.symm
    · rename_i key member
      split at h
      · exact absurd h (by simp)
      · rename_i mid more hmember
        exact .inr ⟨fuel, key, member, mid, more, rfl, rfl, hmember, h⟩
    · rename_i key member
      split at h
      · exact absurd h (by simp)
      · rename_i mid more hmember
        exact .inr ⟨fuel, key, member, mid, more, rfl, rfl, hmember, h⟩
    · exact absurd h (by simp)

/-- Once the field has its value, it keeps it. -/
theorem readMembers_filled {fuel : Nat} {first : Bool} {a : α}
    (h : (cons name codec nil).readMembers fuel first (some a, ()) list = .ok (draft, rest)) :
    draft = (some a, ()) := by
  induction fuel generalizing first list with
  | zero => exact absurd h (by simp [readMembers])
  | succ fuel ih =>
    rcases readMembers_cases h with hdraft | ⟨_, key, member, mid, more, hfuel, -, hmember, hmore⟩
    · exact hdraft
    · obtain rfl := Nat.succ.inj hfuel
      rcases readMember_cases hmember with ⟨-, hnone, -⟩ | ⟨-, rfl, -⟩
      · exact absurd hnone (by simp)
      · exact ih hmore

/-- **If a row of one field is read, so is the value of that field**, which stands behind its key
and behind members that are passed over. -/
theorem passes_of_readMembers {fuel : Nat} {first : Bool} {a : α}
    (h : (cons name codec nil).readMembers fuel first (none, ()) list =
      .ok ((some a, ()), rest)) :
    ∃ members value back, list = (if first then [] else [.comma]) ++ members ∧
      Passes name members (.string (some name) :: .colon :: value) ∧
      codec.read value = .ok (a, back) := by
  induction fuel generalizing first list with
  | zero => exact absurd h (by simp [readMembers])
  | succ fuel ih =>
    rcases readMembers_cases h with hdraft | ⟨_, key, member, mid, more, hfuel, rfl, hmember, hmore⟩
    · exact absurd (congrArg Prod.fst hdraft) (by simp)
    · obtain rfl := Nat.succ.inj hfuel
      rcases readMember_cases hmember with
        ⟨rfl, -, b, value, rfl, hread, rfl⟩ | ⟨hkey, rfl, value, rfl, hskip⟩
      · -- this member is the field, and what comes after it leaves its value alone
        have hb := readMembers_filled hmore
        obtain rfl := Option.some.inj (Prod.mk.inj hb).1
        exact ⟨_, value, more, rfl, .here _, hread⟩
      · obtain ⟨members, value', back, rfl, hpasses, hread⟩ := ih hmore
        exact ⟨_, value', back, rfl, .member hkey hskip hpasses, hread⟩

theorem read_of_readItems {expected : String} {a : α}
    (h : (cons name codec nil).readItems expected 0 list = .ok ((a, ()), rest)) :
    codec.read list = .ok (a, rest) := by
  unfold readItems at h
  split at h
  · exact absurd h (by simp)
  · split at h
    · exact absurd h (by simp)
    · rename_i hread
      obtain ⟨hrow, rfl⟩ := Prod.mk.inj (Except.ok.inj h)
      obtain ⟨rfl, -⟩ := Prod.mk.inj hrow
      exact hread
  · contradiction
  · contradiction

/-- Of a member put into a row of one field: what it does to the value, if it is accepted. -/
theorem putField_cases {key : String} {value : Value}
    (h : (cons name codec nil).putField key value (value?, ()) = .ok draft) :
    (key = name ∧ ∃ a, codec.ofValue value = .ok a ∧ draft = (some a, ())) ∨
      (key ≠ name ∧ draft = (value?, ())) := by
  by_cases hkey : key = name
  · refine .inl ⟨hkey, ?_⟩
    simp only [putField, if_pos hkey] at h
    split at h
    · exact absurd h (by simp)
    · rename_i a hvalue
      exact ⟨a, hvalue, (Except.ok.inj h).symm⟩
  · refine .inr ⟨hkey, ?_⟩
    simp only [putField, if_neg hkey] at h
    exact (Except.ok.inj h).symm

/-- **If the members of an object make a row of one field, each value under its key is accepted**,
and one of them is the value of the field. -/
theorem accepted_of_putMembers {members : List (String × Value)} {a : α}
    (h : (cons name codec nil).putMembers members (value?, ()) = .ok (some a, ())) :
    (value? = some a ∨ ∃ value, (name, value) ∈ members ∧ codec.ofValue value = .ok a) ∧
      ∀ value, (name, value) ∈ members → ∃ b, codec.ofValue value = .ok b := by
  induction members generalizing value? with
  | nil => exact ⟨.inl (Prod.mk.inj (Except.ok.inj h)).1, fun _ hmem => absurd hmem (by simp)⟩
  | cons member members ih =>
    obtain ⟨key, value⟩ := member
    simp only [putMembers] at h
    split at h
    · exact absurd h (by simp)
    · rename_i draft hput
      rcases putField_cases hput with ⟨rfl, b, hvalue, rfl⟩ | ⟨hkey, rfl⟩
      · obtain ⟨hfound, hall⟩ := ih h
        refine ⟨.inr ?_, fun other hmem => ?_⟩
        · rcases hfound with hb | ⟨other, hmem, hother⟩
          · obtain rfl := Option.some.inj hb
            exact ⟨value, List.mem_cons_self, hvalue⟩
          · exact ⟨other, List.mem_cons_of_mem _ hmem, hother⟩
        · rcases List.mem_cons.mp hmem with heq | hmem
          · obtain ⟨-, rfl⟩ := Prod.mk.inj heq
            exact ⟨b, hvalue⟩
          · exact hall other hmem
      · obtain ⟨hfound, hall⟩ := ih h
        refine ⟨hfound.imp_right ?_, fun other hmem => ?_⟩
        · rintro ⟨other, hmem, hother⟩
          exact ⟨other, List.mem_cons_of_mem _ hmem, hother⟩
        · rcases List.mem_cons.mp hmem with heq | hmem
          · exact absurd (Prod.mk.inj heq).1.symm hkey
          · exact hall other hmem

end Fields

section Record

variable {α : Type} {name key : String} {codec : Codec α} {a : α}

/-- **What a row of one field is read from in one pass**: an array with the value of the field, or
an object with it. -/
theorem readRecord_cases {list rest : List Token}
    (h : readRecord name (.cons key codec .nil) list = .ok ((a, ()), rest)) :
    (∃ value, list = .openArray :: value ∧ codec.read value = .ok (a, .closeArray :: rest)) ∨
      ∃ members value back, list = .openObject :: members ∧
        Passes key members (.string (some key) :: .colon :: value) ∧
        codec.read value = .ok (a, back) := by
  unfold readRecord at h
  split at h
  · rename_i members
    split at h
    · exact absurd h (by simp)
    · rename_i draft rest' hmembers
      obtain ⟨value?, ⟨⟩⟩ := draft
      cases value? with
      | none => exact absurd h (by simp [Fields.finish])
      | some b =>
        obtain ⟨hrow, -⟩ := Prod.mk.inj (Except.ok.inj h)
        obtain ⟨rfl, -⟩ := Prod.mk.inj hrow
        obtain ⟨members, value, back, rfl, hpasses, hvalue⟩ := Fields.passes_of_readMembers hmembers
        exact .inr ⟨members, value, back, rfl, hpasses, hvalue⟩
  · rename_i items
    refine .inl ⟨items, rfl, ?_⟩
    split at h
    · exact absurd h (by simp)
    · rename_i row rest' hitems
      obtain ⟨rfl, rfl⟩ := Prod.mk.inj (Except.ok.inj h)
      exact Fields.read_of_readItems hitems
    · exact absurd h (by simp)
  · obtain ⟨_, _, -, -, hrule⟩ := exists_found_of_readFound h
    exact absurd hrule (by simp)

/-- **What a row of one field is made of from a value**. -/
theorem recordOfValue_cases {value : Value}
    (h : recordOfValue name (.cons key codec .nil) value = .ok (a, ())) :
    (∃ item, value = .array [item] ∧ codec.ofValue item = .ok a) ∨
      ∃ members, value = .object members ∧
        (∃ item, (key, item) ∈ members ∧ codec.ofValue item = .ok a) ∧
        ∀ item, (key, item) ∈ members → ∃ b, codec.ofValue item = .ok b := by
  unfold recordOfValue at h
  split at h
  · rename_i members
    split at h
    · exact absurd h (by simp)
    · rename_i draft hmembers
      obtain ⟨value?, ⟨⟩⟩ := draft
      cases value? with
      | none => exact absurd h (by simp [Fields.finish])
      | some b =>
        obtain ⟨rfl, -⟩ := Prod.mk.inj (Except.ok.inj h)
        obtain ⟨hfound, hall⟩ := Fields.accepted_of_putMembers hmembers
        exact .inr ⟨members, rfl, hfound.resolve_left (by simp), hall⟩
  · rename_i items
    split at h
    · exact absurd h (by simp)
    · rename_i row hitems
      obtain rfl := Except.ok.inj h
      cases items with
      | nil => exact absurd hitems (by simp [Fields.putItems])
      | cons item items =>
        simp only [Fields.putItems] at hitems
        split at hitems
        · exact absurd hitems (by simp)
        · rename_i b hitem
          obtain ⟨hrow, rfl⟩ := Prod.mk.inj (Except.ok.inj hitems)
          obtain ⟨rfl, -⟩ := Prod.mk.inj hrow
          exact .inl ⟨item, rfl, hitem⟩
    · exact absurd h (by simp)
  · exact absurd h (by simp)

end Record

end Snowflake.Json
