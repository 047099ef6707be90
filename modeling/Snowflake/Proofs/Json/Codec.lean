import Snowflake.Json.Codec
import Snowflake.Proofs.Json.Token

/-!
# Codecs that lose nothing

A codec is lossless if both readers get back from a text the value that was written. That is a
fact about whole texts; to put codecs together one has to know more, namely that a value is read
back wherever its tokens stand among others. That is `Codec.Lawful`, and it passes from the fields
of a record to the record as long as no two fields have the same name.

The one-pass reader meets the fields in the order they are written in. The other reader first
gathers them by key and then goes through them in the order of the keys, which need not be theirs;
but since the keys differ, each field finds its own value whatever the order.

Results:
* `Codec.Lawful.iso`, `lawful_scalar`, **`lawful_record`**: how lawful codecs are made.
* **`Codec.Lawful.lossless`**: a lawful codec is lossless.
-/

namespace Snowflake.Json

/-! ## Values from tokens -/

/-- Tokens spell a value in which `depth` containers are nested: it is built wherever the tokens
stand, unless too many containers are open there. -/
def Spells (list : List Token) (value : Value) (depth : Nat) : Prop :=
  ∀ stack rest, stack.length + depth ≤ maxDepth →
    Value.expect stack (list ++ rest) = Value.complete stack value rest

/-- A token that is a value by itself. -/
inductive Token.IsValue : Token → Value → Prop where
  | null : IsValue .null .null
  | bool (b : Bool) : IsValue (.bool b) (.bool b)
  | number (n : Number) : IsValue (.number (some n)) (.number n)
  | string (s : String) : IsValue (.string (some s)) (.string s)

theorem Token.IsValue.found {token : Token} {value : Value} (h : token.IsValue value) :
    token.found? = some value.found := by
  cases h <;> rfl

theorem Token.IsValue.spells {token : Token} {value : Value} (h : token.IsValue value) :
    Spells [token] value 0 := by
  intro stack rest _
  cases h <;> rw [List.singleton_append, Value.expect]

namespace Codec

variable {α β : Type}

/-! ## The laws -/

/-- **What is written is read back**, by both readers. -/
structure Lossless (codec : Codec α) : Prop where
  /-- In one pass over the text. -/
  read : ∀ a, codec.ofText (codec.toText a) = .ok a
  /-- By way of the value that the text spells. -/
  readWhole : ∀ a, codec.ofWholeText (codec.toText a) = .ok a

/-- What is written is read back wherever it stands. -/
structure Lawful (codec : Codec α) (depth : Nat) : Prop where
  /-- The text is cut into the tokens that were written. -/
  scans : ∀ a, Scans (codec.write a)
  /-- These tokens are read from the left, and no more than these. -/
  read : ∀ a rest, codec.read (codec.write a ++ rest) = .ok (a, rest)
  /-- They spell a value that is read too. -/
  spells : ∀ a, ∃ value, Spells (codec.write a) value depth ∧ codec.ofValue value = .ok a

theorem Lawful.lossless {codec : Codec α} {depth : Nat} (h : codec.Lawful depth)
    (hdepth : depth ≤ maxDepth) : codec.Lossless := by
  have htokens : ∀ a, tokens (codec.toText a).toList = codec.write a := by
    intro a
    have hscan := h.scans a [] Ends.nil
    rw [List.append_nil, tokens.eq_def [], List.dropWhile_nil, List.append_nil] at hscan
    rw [toText, String.toList_ofList, hscan]
  refine ⟨fun a => ?_, fun a => ?_⟩
  · have hread := h.read a []
    rw [List.append_nil] at hread
    rw [ofText, htokens, hread]
  · obtain ⟨value, hspells, hvalue⟩ := h.spells a
    have hexpect := hspells [] [] (by simpa using hdepth)
    rw [List.append_nil, Value.complete] at hexpect
    rw [ofWholeText, htokens, Value.ofTokens?, hexpect]
    simp only [hvalue]

/-- Another type with the same values. -/
theorem Lawful.iso {codec : Codec α} {depth : Nat} {wrap : α → β} {unwrap : β → α}
    (h : codec.Lawful depth) (hback : ∀ b, wrap (unwrap b) = b) :
    (codec.iso wrap unwrap).Lawful depth where
  scans b := h.scans (unwrap b)
  read b rest := by simp only [Codec.iso, h.read, hback]
  spells b := by
    obtain ⟨value, hspells, hvalue⟩ := h.spells (unwrap b)
    exact ⟨value, hspells, by simp only [Codec.iso, hvalue, hback]⟩

end Codec

/-! ## Values of one token -/

theorem lawful_scalar {α : Type} {write : α → Token} {rule : Found → Except Mismatch α}
    (value : α → Value) (hvalue : ∀ a, (write a).IsValue (value a))
    (hlegible : ∀ a, (write a).Legible) (hrule : ∀ a, rule (value a).found = .ok a) :
    (scalar write rule).Lawful 0 where
  scans a := Scans.single (hlegible a)
  read a rest := by
    simp only [scalar, List.singleton_append, readFound, (hvalue a).found, hrule]
  spells a := ⟨value a, (hvalue a).spells, hrule a⟩

theorem lawful_word64 : word64.Lawful 0 := by
  refine lawful_scalar (fun n => .number (.unsigned n)) (fun _ => .number _) (fun _ => trivial)
    fun n => ?_
  simp only [Value.found, unsignedRule, if_pos n.toNat_lt, Except.map, UInt64.ofNat_toNat]

theorem lawful_word16 : word16.Lawful 0 := by
  refine lawful_scalar (fun n => .number (.unsigned n.toUInt64)) (fun _ => .number _)
    (fun _ => trivial) fun n => ?_
  have hn : n.toUInt64.toNat = n.toNat := UInt16.toNat_toUInt64 n
  simp only [Value.found, unsignedRule, hn, if_pos n.toNat_lt, Except.map, UInt16.ofNat_toNat]

theorem lawful_int64 : int64.Lawful 0 := by
  refine lawful_scalar
    (fun n => .number (if 0 ≤ n.toInt then .unsigned (UInt64.ofNat n.toInt.toNat) else .signed n))
    (fun _ => .number _) (fun n => ?_) fun n => ?_
  · by_cases hn : 0 ≤ n.toInt
    · rw [if_pos hn]
      trivial
    · rw [if_neg hn]
      exact Int.not_le.mp hn
  · by_cases hn : 0 ≤ n.toInt
    · have hfits : n.toInt.toNat < UInt64.size :=
        Nat.lt_trans n.toNatClampNeg_lt (by decide)
      have hmax : n.toInt ≤ Int64.maxValue.toInt := Int.le_of_lt_add_one n.toInt_lt
      have hback : Int64.ofNat n.toInt.toNat = n :=
        Int64.ofNat_toNatClampNeg n (Int64.le_iff_toInt_le.mpr hn)
      simp only [Value.found, if_pos hn, signedRule, UInt64.toNat_ofNat_of_lt' hfits,
        Int.toNat_of_nonneg hn, if_pos hmax, hback]
    · simp only [Value.found, if_neg hn, signedRule]

theorem lawful_boolean : boolean.Lawful 0 :=
  lawful_scalar .bool .bool (fun _ => trivial) fun _ => rfl

/-! ## Records -/

/-- A row as a draft that has every field. -/
def Row.full : {types : List Type} → Row types → Draft types
  | [], () => ()
  | _ :: _, (a, row) => (some a, Row.full row)

namespace Fields

variable {types allTypes : List Type} {depth : Nat}

/-- The names of the fields. -/
def names : {types : List Type} → Fields types → List String
  | _, .nil => []
  | _, .cons name _ more => name :: more.names

/-- Each field has a lawful codec and a name of its own. -/
def Lawful : {types : List Type} → Fields types → (depth : Nat) → Prop
  | _, .nil, _ => True
  | _, .cons name codec more, depth => codec.Lawful depth ∧ name ∉ more.names ∧ more.Lawful depth

theorem Lawful.nodup_names {fields : Fields types} (h : fields.Lawful depth) :
    fields.names.Nodup := by
  induction fields with
  | nil => exact List.nodup_nil
  | cons name codec more ih => exact List.nodup_cons.mpr ⟨h.2.1, ih h.2.2⟩

/-- The members, and what follows them, from the first member on. -/
theorem writeMembers_cons_append {α : Type} (name : String) (codec : Codec α) (more : Fields types)
    (first : Bool) (a : α) (row : Row types) (rest : List Token) :
    (cons name codec more).writeMembers first (a, row) ++ rest =
      (if first then [] else [.comma]) ++ .string (some name) :: .colon ::
        (codec.write a ++ (more.writeMembers false row ++ rest)) := by
  simp [writeMembers]

/-- Each member takes a token or more. -/
theorem length_names_le (fields : Fields types) (first : Bool) (row : Row types) :
    fields.names.length ≤ (fields.writeMembers first row).length := by
  induction fields generalizing first with
  | nil => exact Nat.zero_le _
  | cons name codec more ih =>
    obtain ⟨a, row⟩ := row
    have hmore := ih false row
    simp only [names, writeMembers, List.length_append, List.length_cons]
    omega

theorem finish_full (fields : Fields types) (row : Row types) :
    fields.finish row.full = .ok row := by
  induction fields with
  | nil => rfl
  | cons name codec more ih =>
    obtain ⟨a, row⟩ := row
    simp only [Row.full, finish, ih row]

/-! ### Scanning -/

/-- The members are scanned back, with the brace behind them. -/
theorem scans_members (fields : Fields types) (hlawful : fields.Lawful depth) (first : Bool)
    (row : Row types) : Scans (fields.writeMembers first row ++ [.closeObject]) := by
  induction fields generalizing first with
  | nil => exact Scans.cons trivial trivial .nil
  | cons name codec more ih =>
    obtain ⟨a, row⟩ := row
    obtain ⟨hcodec, -, hmore⟩ := hlawful
    have hvalue : Scans (codec.write a ++ (more.writeMembers false row ++ [.closeObject])) := by
      have htail := ih hmore false row
      cases more with
      | nil => exact (hcodec.scans a).append trivial trivial htail
      | cons name codec more => exact (hcodec.scans a).append trivial trivial htail
    have hmember : Scans (.string (some name) :: .colon ::
        (codec.write a ++ (more.writeMembers false row ++ [.closeObject]))) :=
      .cons trivial trivial (.cons trivial trivial hvalue)
    have hcomma : Scans (.comma :: .string (some name) :: .colon ::
        (codec.write a ++ (more.writeMembers false row ++ [.closeObject]))) :=
      .cons trivial trivial hmember
    rw [writeMembers_cons_append]
    cases first with
    | true => exact hmember
    | false => exact hcomma

/-! ### From the left -/

/-- Some of the fields inside a whole record: what they read is read by the record too. `place`
puts a draft of these fields among the other fields. -/
def Embeds (all : Fields allTypes) (more : Fields types) (place : Draft types → Draft allTypes) :
    Prop :=
  ∀ key ∈ more.names, ∀ draft list draft' rest,
    more.readField key draft list = some (.ok (draft', rest)) →
      all.readField key (place draft) list = some (.ok (place draft', rest))

/-- Once the first of the fields has a value, the others are left. -/
theorem Embeds.tail {α : Type} {all : Fields allTypes} {name : String} {codec : Codec α}
    {more : Fields types} {place : Draft (α :: types) → Draft allTypes}
    (h : Embeds all (.cons name codec more) place) (hname : name ∉ more.names) (a : α) :
    Embeds all more fun draft => place (some a, draft) := by
  intro key hkey draft list draft' rest hread
  have hne : key ≠ name := fun heq => hname (heq ▸ hkey)
  refine h key (List.mem_cons_of_mem _ hkey) (some a, draft) list (some a, draft') rest ?_
  simp only [readField, if_neg hne, hread, Option.map_some]

/-- The first of the fields is read. -/
theorem Embeds.head {α : Type} {all : Fields allTypes} {name : String} {codec : Codec α}
    {more : Fields types} {place : Draft (α :: types) → Draft allTypes}
    (h : Embeds all (.cons name codec more) place) (hcodec : codec.Lawful depth) (a : α)
    (draft : Draft types) (rest : List Token) :
    all.readMember name (place (none, draft)) (.colon :: (codec.write a ++ rest)) =
      .ok (place (some a, draft), rest) := by
  have hread := h name List.mem_cons_self (none, draft) (.colon :: (codec.write a ++ rest))
    (some a, draft) rest (by simp only [readField, if_pos, hcodec.read])
  simp only [readMember, hread]

/-- The members that are left are read up to the end of the object. -/
theorem readMembers_written {all : Fields allTypes} {more : Fields types}
    {place : Draft types → Draft allTypes} (hlawful : more.Lawful depth)
    (hembeds : Embeds all more place) (first : Bool) (row : Row types) (rest : List Token)
    (fuel : Nat) (hfuel : more.names.length < fuel) :
    all.readMembers fuel first (place more.blank)
      (more.writeMembers first row ++ .closeObject :: rest) = .ok (place row.full, rest) := by
  -- The record stays the same: the induction is on the fields that are left, and those that are
  -- read go into `place`.
  induction more generalizing first fuel with
  | nil =>
    obtain ⟨fuel, rfl⟩ := Nat.exists_eq_add_of_lt hfuel
    cases first <;> rfl
  | cons name codec more ih =>
    obtain ⟨a, row⟩ := row
    obtain ⟨hcodec, hname, hmore⟩ := hlawful
    obtain ⟨fuel, rfl⟩ := Nat.exists_eq_add_of_lt hfuel
    have hread := hembeds.head hcodec a more.blank
      (more.writeMembers false row ++ .closeObject :: rest)
    have hrest := ih hmore (hembeds.tail hname a) false row
      ((cons name codec more).names.length + fuel) (by simp [names]; omega)
    rw [writeMembers_cons_append]
    cases first with
    | true =>
      simp only [if_true, List.nil_append, readMembers, blank, hread, hrest]
      rfl
    | false =>
      simp only [Bool.false_eq_true, if_false, List.singleton_append, readMembers, blank, hread,
        hrest]
      rfl

/-! ### From a value -/

/-- The members that the fields' values spell, in the order of the fields. -/
inductive Spelled (depth : Nat) :
    {types : List Type} → Fields types → Row types → List (String × Value) → Prop where
  | nil : Spelled depth .nil () []
  | cons {α : Type} {types : List Type} {name : String} {codec : Codec α} {more : Fields types}
      {a : α} {row : Row types} {value : Value} {members : List (String × Value)}
      (hspells : Spells (codec.write a) value depth) (hvalue : codec.ofValue value = .ok a)
      (hmore : Spelled depth more row members) :
      Spelled depth (.cons name codec more) (a, row) ((name, value) :: members)

theorem exists_spelled (fields : Fields types) (hlawful : fields.Lawful depth) (row : Row types) :
    ∃ members, Spelled depth fields row members := by
  induction fields with
  | nil => exact ⟨[], .nil⟩
  | cons name codec more ih =>
    obtain ⟨a, row⟩ := row
    obtain ⟨hcodec, -, hmore⟩ := hlawful
    obtain ⟨value, hspells, hvalue⟩ := hcodec.spells a
    obtain ⟨members, hmembers⟩ := ih hmore row
    exact ⟨(name, value) :: members, .cons hspells hvalue hmembers⟩

theorem Spelled.keys {fields : Fields types} {row : Row types} {members : List (String × Value)}
    (h : Spelled depth fields row members) : members.map Prod.fst = fields.names := by
  induction h with
  | nil => rfl
  | cons _ _ _ ih => rw [List.map_cons, ih, names]

/-- Gather members into an object. -/
def gather (done members : List (String × Value)) : List (String × Value) :=
  members.foldl (fun done member => Value.put member.1 member.2 done) done

/-- Behind the value of a member, the members that are left are gathered and the object closed. -/
theorem Spelled.complete {fields : Fields types} {row : Row types}
    {members : List (String × Value)} (h : Spelled depth fields row members)
    {stack : List Frame} (hstack : stack.length + (depth + 1) ≤ maxDepth)
    (done : List (String × Value)) (key : String) (value : Value) (rest : List Token) :
    Value.complete (.object done key :: stack) value
        (fields.writeMembers false row ++ .closeObject :: rest) =
      Value.complete stack (.object (gather (Value.put key value done) members)) rest := by
  induction h generalizing done key value with
  | nil =>
    simp only [writeMembers, List.nil_append, Value.complete]
    rfl
  | @cons _ _ name codec more a row _ _ hspells _ _ ih =>
    have hinner : (Frame.object (Value.put key value done) name :: stack).length + depth ≤
        maxDepth := by
      rw [List.length_cons]
      omega
    rw [writeMembers_cons_append, if_neg Bool.false_ne_true, List.singleton_append, Value.complete,
      hspells _ _ hinner, ih]
    rfl

/-- The braces and what stands between them spell the object of the gathered members. -/
theorem Spelled.spells {fields : Fields types} {row : Row types}
    {members : List (String × Value)} (h : Spelled depth fields row members) :
    Spells (.openObject :: fields.writeMembers true row ++ [.closeObject])
      (.object (gather [] members)) (depth + 1) := by
  intro stack rest hstack
  have hroom : stack.length < maxDepth := by omega
  cases h with
  | nil =>
    simp only [writeMembers, List.cons_append, List.nil_append, Value.expect, if_pos hroom]
    rfl
  | @cons _ _ name codec more a row _ _ hspells _ hmore =>
    have hinner : (Frame.object [] name :: stack).length + depth ≤ maxDepth := by
      rw [List.length_cons]
      omega
    rw [List.append_assoc, List.cons_append, writeMembers_cons_append, if_pos rfl,
      List.nil_append, Value.expect, if_pos hroom, hspells _ _ hinner]
    exact hmore.complete hstack [] name _ rest

/-- A new member is put somewhere among the others. -/
theorem put_perm {key : String} (value : Value) {done : List (String × Value)}
    (h : key ∉ done.map Prod.fst) : (Value.put key value done).Perm ((key, value) :: done) := by
  induction done with
  | nil => rfl
  | cons member done ih =>
    obtain ⟨other, old⟩ := member
    have hne := List.ne_of_not_mem_cons h
    have hdone := List.not_mem_of_not_mem_cons h
    unfold Value.put
    split
    · rfl
    · exact ((ih hdone).cons _).trans (List.Perm.swap _ _ _)

/-- No member is lost when members with keys of their own are gathered. -/
theorem gather_perm {done members : List (String × Value)}
    (h : ((members ++ done).map Prod.fst).Nodup) : (gather done members).Perm (members ++ done) := by
  induction members generalizing done with
  | nil => rfl
  | cons member members ih =>
    obtain ⟨key, value⟩ := member
    have hdone : key ∉ done.map Prod.fst := fun hmem =>
      (List.nodup_cons.mp h).1 (by simp [hmem])
    have hmiddle : (members ++ Value.put key value done).Perm ((key, value) :: (members ++ done)) :=
      ((put_perm value hdone).append_left members).trans List.perm_middle
    exact (ih ((hmiddle.map Prod.fst).nodup_iff.mpr h)).trans hmiddle

/-- Members in which each field finds its own value and no other, in whatever order. -/
def Finds : {types : List Type} → Fields types → Row types → List (String × Value) → Prop
  | _, .nil, _, _ => True
  | _, .cons name codec more, (a, row), members =>
    (∃ value, (name, value) ∈ members) ∧
      (∀ value, (name, value) ∈ members → codec.ofValue value = .ok a) ∧
      more.Finds row members

/-- The order of members does not matter to the fields, nor do the members of other fields. -/
theorem Spelled.finds {fields : Fields types} {row : Row types}
    {members found : List (String × Value)} (h : Spelled depth fields row members)
    (hlawful : fields.Lawful depth)
    (hfound : ∀ key ∈ fields.names, ∀ value, (key, value) ∈ found ↔ (key, value) ∈ members) :
    fields.Finds row found := by
  induction h with
  | nil => trivial
  | @cons _ _ name codec more a row value members _ hvalue hmore ih =>
    obtain ⟨-, hname, hmoreLawful⟩ := hlawful
    have hkeys : ∀ key value, (key, value) ∈ members → key ∈ more.names := fun key value hmem =>
      hmore.keys ▸ List.mem_map_of_mem hmem
    refine ⟨⟨value, ?_⟩, fun other hother => ?_, ih hmoreLawful fun key hkey other => ?_⟩
    · exact (hfound name List.mem_cons_self value).mpr List.mem_cons_self
    · obtain heq | hmem := List.mem_cons.mp ((hfound name List.mem_cons_self other).mp hother)
      · rw [(Prod.mk.inj heq).2, hvalue]
      · exact absurd (hkeys name other hmem) hname
    · have hne : key ≠ name := fun heq => hname (heq ▸ hkey)
      rw [hfound key (List.mem_cons_of_mem _ hkey) other, List.mem_cons]
      exact or_iff_right fun heq => hne (Prod.mk.inj heq).1

/-- A key that is no field's changes nothing. -/
theorem putField_of_notMem {fields : Fields types} {key : String} (h : key ∉ fields.names)
    (value : Value) (draft : Draft types) : fields.putField key value draft = .ok draft := by
  induction fields with
  | nil => rfl
  | cons name codec more ih =>
    obtain ⟨value?, draft⟩ := draft
    rw [putField, if_neg (List.ne_of_not_mem_cons h), ih (List.not_mem_of_not_mem_cons h)]

/-- The first field gets its value, wherever it stands among the members of the others. -/
theorem putMembers_cons {α : Type} {name : String} {codec : Codec α} {more : Fields types} {a : α}
    {members : List (String × Value)} {draft draft' : Draft types} (value? : Option α)
    (hname : name ∉ more.names)
    (hvalue : ∀ value, (name, value) ∈ members → codec.ofValue value = .ok a)
    (hmore : more.putMembers members draft = .ok draft') :
    (cons name codec more).putMembers members (value?, draft) =
      .ok (if name ∈ members.map Prod.fst then some a else value?, draft') := by
  induction members generalizing value? draft with
  | nil =>
    obtain rfl := Except.ok.inj hmore
    rfl
  | cons member members ih =>
    obtain ⟨key, value⟩ := member
    have hrest : ∀ value, (name, value) ∈ members → codec.ofValue value = .ok a :=
      fun value hmem => hvalue value (List.mem_cons_of_mem _ hmem)
    simp only [putMembers] at hmore ⊢
    by_cases hkey : key = name
    · subst hkey
      rw [putField_of_notMem hname] at hmore
      rw [putField, if_pos rfl, hvalue value List.mem_cons_self]
      simp only [ih (some a) hrest hmore, List.map_cons, List.mem_cons, true_or, if_true, ite_self]
    · rw [putField, if_neg hkey]
      cases hput : more.putField key value draft with
      | error cause => rw [hput] at hmore; exact absurd hmore (by simp)
      | ok next =>
        rw [hput] at hmore
        simp only [ih value? hrest hmore, List.map_cons, List.mem_cons, Ne.symm hkey, false_or]

/-- Each field that finds its own value gets it. -/
theorem Finds.putMembers {fields : Fields types} {row : Row types}
    {members : List (String × Value)} (h : fields.Finds row members)
    (hlawful : fields.Lawful depth) (draft : Draft types) :
    fields.putMembers members draft = .ok row.full := by
  induction fields with
  | nil =>
    induction members with
    | nil => rfl
    | cons member members ih => exact ih trivial
  | cons name codec more ih =>
    obtain ⟨value?, draft⟩ := draft
    obtain ⟨a, row⟩ := row
    obtain ⟨-, hname, hmore⟩ := hlawful
    obtain ⟨⟨value, hmem⟩, hvalue, hrest⟩ := h
    have hkey : name ∈ members.map Prod.fst := List.mem_map_of_mem hmem
    rw [putMembers_cons value? hname hvalue (ih hrest hmore draft), if_pos hkey]
    rfl

end Fields

/-- **A record of lawful codecs is lawful**, if no two fields have the same name. -/
theorem lawful_record {types : List Type} {depth : Nat} (name : String) {fields : Fields types}
    (hlawful : fields.Lawful depth) : (record name fields).Lawful (depth + 1) where
  scans row := .cons trivial trivial (Fields.scans_members fields hlawful true row)
  read row rest := by
    have hembeds : fields.Embeds fields id := fun _ _ _ _ _ _ hread => hread
    have hlength := fields.length_names_le true row
    have hread := Fields.readMembers_written hlawful hembeds true row rest
      (fields.writeMembers true row ++ .closeObject :: rest).length (by simp; omega)
    have hlist : (record name fields).write row ++ rest =
        .openObject :: (fields.writeMembers true row ++ .closeObject :: rest) := by
      simp [record]
    rw [id, id] at hread
    rw [hlist]
    simp only [record, readRecord, hread, Fields.finish_full]
  spells row := by
    obtain ⟨members, hmembers⟩ := Fields.exists_spelled fields hlawful row
    have hgather : (Fields.gather [] members).Perm members := by
      have hkeys : ((members ++ []).map Prod.fst).Nodup := by
        rw [List.append_nil, hmembers.keys]
        exact hlawful.nodup_names
      simpa using Fields.gather_perm hkeys
    have hfinds : fields.Finds row (Fields.gather [] members) :=
      hmembers.finds hlawful fun _ _ _ => hgather.mem_iff
    refine ⟨_, hmembers.spells, ?_⟩
    simp only [record, recordOfValue, hfinds.putMembers hlawful, Fields.finish_full]

end Snowflake.Json
