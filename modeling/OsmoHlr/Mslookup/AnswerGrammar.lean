import OsmoHlr.Mslookup.Mdns

/-!
# What the answer parser accepts

`osmo_mdns_result_from_answer` goes through the records with four flags.  What it
accepts is said here without them: every record is an age, an address or a port;
one age stands anywhere among pairs of an address and its port, of which there is
one at least and one of a family at most.

* `itemOf` — what a record is.
* `records_eq_ok_iff` — the loop over the records is one over such items.
* `AnswerGrammar` — what is accepted, `resultFromAnswer_eq_ok_iff` that it is.
-/

namespace OsmoHlr
namespace Mdns

open CString MdnsRfc MdnsMsg
open Mslookup (Result ResultCode)

/-! ## Records and what they are -/

/-- What a record of an answer is. -/
inductive Item where
  | age (age : UInt32)
  | addr (host : Host) (addr : SockaddrStr)
  | port (port : UInt16)
  deriving DecidableEq

/-- What a TXT record with a key and a value is. -/
def itemOfTxt (txtKey txtValue : CStr) : Option Item :=
  if txtKey = CStr.lit "age" then (decodeUint32 txtValue).toOption.map Item.age
  else if txtKey = CStr.lit "port" then (decodePort txtValue).toOption.map Item.port
  else none

/-- What a record is, if it is anything: an address has the length of its family, and the value of
an age or a port is one. -/
def itemOf (lib : Libosmocore) (rec' : MdnsRecord) : Option Item :=
  if rec'.type = recordTypeA then
    if h : rec'.data.length = 4 then some (.addr .v4 (lib.sockaddrStrFrom32 ⟨rec'.data, h⟩ 0))
    else none
  else if rec'.type = recordTypeAaaa then
    if h : rec'.data.length = 16 then
      some (.addr .v6 (lib.sockaddrStrFromIn6Addr ⟨rec'.data, h⟩ 0))
    else none
  else if rec'.type = recordTypeTxt then
    match recordTxtKeyvalDecode lib rec' txtBufSize txtBufSize with
    | .error _ => none
    | .ok (txtKey, txtValue) => itemOfTxt txtKey txtValue
  else none

namespace FromAnswer

/-- Whether there was an address of the family. -/
def found (st : FromAnswer) : Host → Bool
  | .v4 => st.foundIpV4
  | .v6 => st.foundIpV6

/-- `found_age = true; result->age = age;` -/
def setAge (st : FromAnswer) (age : UInt32) : FromAnswer :=
  { st with foundAge := true, result := { st.result with age := age } }

/-- The switch, by what the record is. -/
def item (st : FromAnswer) : Item → Option FromAnswer
  | .age age => if st.foundAge then none else some (st.setAge age)
  | .addr host addr =>
      if st.expectPortFor.isSome then none
      else if st.found host then none
      else some (st.expect host addr)
  | .port port =>
      match st.expectPortFor with
      | none => none
      | some host => some (st.setPort host port)

/-- The loop, by what the records are. -/
def items (st : FromAnswer) : List Item → Option FromAnswer
  | [] => some st
  | i :: is => (st.item i).bind fun st => st.items is

@[simp] theorem items_nil (st : FromAnswer) : st.items [] = some st := rfl

theorem items_cons (st : FromAnswer) (i : Item) (is : List Item) :
    st.items (i :: is) = (st.item i).bind fun st => st.items is := rfl

theorem items_append (st : FromAnswer) (is js : List Item) :
    st.items (is ++ js) = (st.items is).bind fun st => st.items js := by
  induction is generalizing st with
  | nil => rfl
  | cons i is ih =>
      rw [List.cons_append, items_cons, items_cons]
      cases st.item i with
      | none => rfl
      | some st => exact ih st

variable {lib : Libosmocore} {st st' : FromAnswer}

theorem toOption_bind_eq_some {α β : Type} {x : Except Int α} {f : α → Except Int β} {b : β} :
    (x >>= f) = .ok b ↔ ∃ a, x.toOption = some a ∧ f a = .ok b := by
  cases x with
  | error e => exact ⟨nofun, fun ⟨_, h, _⟩ => nomatch h⟩
  | ok a => exact ⟨fun h => ⟨a, rfl, h⟩, fun ⟨_, h, hf⟩ => by cases h; exact hf⟩

/-- The case of a TXT record. -/
theorem record_txt_iff (st : FromAnswer) {txtKey txtValue : CStr} :
    (if txtKey = CStr.lit "age" then
        if st.foundAge then .error einval
        else do
          let age ← decodeUint32 txtValue
          .ok (st.setAge age)
      else if txtKey = CStr.lit "port" then
        match st.expectPortFor with
        | none => .error einval
        | some host => do
            let port ← decodePort txtValue
            .ok (st.setPort host port)
      else .error einval : Except Int FromAnswer) = .ok st' ↔
      ∃ i, itemOfTxt txtKey txtValue = some i ∧ st.item i = some st' := by
  unfold itemOfTxt
  by_cases hage : txtKey = CStr.lit "age"
  · rw [if_pos hage, if_pos hage]
    by_cases hfound : st.foundAge = true
    · simp [hfound, item]
    · rw [if_neg hfound, toOption_bind_eq_some]
      simp [hfound, item]
  rw [if_neg hage, if_neg hage]
  by_cases hport : txtKey = CStr.lit "port"
  · rw [if_pos hport, if_pos hport]
    cases hexpect : st.expectPortFor with
    | none => simp [item, hexpect]
    | some host =>
        rw [toOption_bind_eq_some]
        simp [item, hexpect]
  · simp [hport]

/-- **A record is taken for what it is.** -/
theorem record_eq_ok_iff {rec' : MdnsRecord} :
    st.record lib rec' = .ok st' ↔ ∃ i, itemOf lib rec' = some i ∧ st.item i = some st' := by
  unfold FromAnswer.record itemOf
  by_cases hA : rec'.type = recordTypeA
  · rw [if_pos hA, if_pos hA]
    by_cases hlen : rec'.data.length = 4
    · simp only [item, found, hlen, ne_eq, not_true_eq_false, dite_false, dite_true]
      split
      · simp_all
      · split <;> simp_all
    · simp [hlen]
  rw [if_neg hA, if_neg hA]
  by_cases hAaaa : rec'.type = recordTypeAaaa
  · rw [if_pos hAaaa, if_pos hAaaa]
    by_cases hlen : rec'.data.length = 16
    · simp only [item, found, hlen, ne_eq, not_true_eq_false, dite_false, dite_true]
      split
      · simp_all
      · split <;> simp_all
    · simp [hlen]
  rw [if_neg hAaaa, if_neg hAaaa]
  by_cases hTxt : rec'.type = recordTypeTxt
  · rw [if_pos hTxt, if_pos hTxt]
    cases hdecode : recordTxtKeyvalDecode lib rec' txtBufSize txtBufSize with
    | error e => exact ⟨nofun, fun ⟨_, h, _⟩ => nomatch h⟩
    | ok txt =>
        obtain ⟨txtKey, txtValue⟩ := txt
        rw [Except.ok_bind]
        exact record_txt_iff st
  · simp [hTxt]

/-- **The loop over the records is one over what they are.** -/
theorem records_eq_ok_iff {records : List MdnsRecord} :
    st.records lib records = .ok st' ↔
      ∃ is, records.map (itemOf lib) = is.map some ∧ st.items is = some st' := by
  induction records generalizing st with
  | nil =>
      rw [FromAnswer.records]
      constructor
      · intro h
        cases h
        exact ⟨[], rfl, rfl⟩
      · rintro ⟨is, his, hst⟩
        rw [List.map_nil] at his
        cases List.map_eq_nil_iff.1 his.symm
        cases hst
        rfl
  | cons rec' records ih =>
      rw [FromAnswer.records]
      constructor
      · intro h
        obtain ⟨st₁, hrec, hrest⟩ := Except.bind_eq_ok.1 h
        obtain ⟨i, hi, hst₁⟩ := record_eq_ok_iff.1 hrec
        obtain ⟨is, his, hst'⟩ := ih.1 hrest
        refine ⟨i :: is, ?_, ?_⟩
        · rw [List.map_cons, hi, his, List.map_cons]
        · rw [items_cons, hst₁]
          exact hst'
      · rintro ⟨is, his, hst'⟩
        cases is with
        | nil => cases his
        | cons i is =>
            obtain ⟨hi, his⟩ := List.cons.inj his
            obtain ⟨st₁, hst₁, hrest⟩ := Option.bind_eq_some_iff.1 hst'
            exact Except.bind_eq_ok.2
              ⟨st₁, record_eq_ok_iff.2 ⟨i, hi, hst₁⟩, ih.2 ⟨is, his, hrest⟩⟩

end FromAnswer

/-! ## Addresses and ports -/

/-- An address with the port behind it. -/
structure Address where
  host : Host
  addr : SockaddrStr
  port : UInt16
  deriving DecidableEq

/-- Both as items. -/
def Address.items (x : Address) : List Item := [.addr x.host x.addr, .port x.port]

/-- Addresses and ports, one pair after the other. -/
def addressItems (xs : List Address) : List Item := xs.flatMap Address.items

theorem addressItems_cons (x : Address) (xs : List Address) :
    addressItems (x :: xs) = .addr x.host x.addr :: .port x.port :: addressItems xs := by
  rw [addressItems, List.flatMap_cons]
  rfl

/-- There is no age among them. -/
theorem age_not_mem_addressItems (xs : List Address) (age : UInt32) :
    Item.age age ∉ addressItems xs := by
  intro h
  obtain ⟨x, -, hx⟩ := List.mem_flatMap.1 h
  simp [Address.items] at hx

namespace FromAnswer

variable {st st' : FromAnswer}

/-- What an address and its port change. -/
def addAddress (st : FromAnswer) (x : Address) : FromAnswer :=
  (st.expect x.host x.addr).setPort x.host x.port

@[simp] theorem expectPortFor_addAddress (st : FromAnswer) (x : Address) :
    (st.addAddress x).expectPortFor = none := by
  unfold addAddress
  cases x.host <;> rfl

@[simp] theorem expectPortFor_expect (st : FromAnswer) (host : Host) (addr : SockaddrStr) :
    (st.expect host addr).expectPortFor = some host := by cases host <;> rfl

theorem found_addAddress (st : FromAnswer) (x : Address) (host : Host) :
    (st.addAddress x).found host = (decide (host = x.host) || st.found host) := by
  obtain ⟨h, addr, port⟩ := x
  cases h <;> cases host <;> rfl

@[simp] theorem foundAge_addAddress (st : FromAnswer) (x : Address) :
    (st.addAddress x).foundAge = st.foundAge := by
  unfold addAddress
  cases x.host <;> rfl

/-- An address, when no port is waited for. -/
theorem items_addr_cons (hport : st.expectPortFor = none) (host : Host) (addr : SockaddrStr)
    (is : List Item) : st.items (.addr host addr :: is) =
      if st.found host then none else (st.expect host addr).items is := by
  rw [items_cons, item, hport]
  by_cases hfound : st.found host = true
  · simp [hfound]
  · simp [hfound]

/-- What comes behind an address, when it is not a port. -/
theorem items_expect_cons (st : FromAnswer) (host : Host) (addr : SockaddrStr) (port : UInt16)
    (is : List Item) : (st.expect host addr).items (.port port :: is) =
      (st.addAddress ⟨host, addr, port⟩).items is := by
  rw [items_cons, item, expectPortFor_expect]
  rfl

/-- The pairs behind an address and its port. -/
theorem addresses_cons_iff (st st' : FromAnswer) (x : Address) (is : List Item) :
    (st.found x.host = false ∧ ∃ xs, is = addressItems xs ∧ (xs.map Address.host).Nodup ∧
        (∀ y ∈ xs, (st.addAddress x).found y.host = false) ∧
        st' = xs.foldl addAddress (st.addAddress x)) ↔
      ∃ xs, .addr x.host x.addr :: .port x.port :: is = addressItems xs ∧
        (xs.map Address.host).Nodup ∧ (∀ y ∈ xs, st.found y.host = false) ∧
        st' = xs.foldl addAddress st := by
  constructor
  · rintro ⟨hfound, xs, rfl, hnodup, hnew, hst'⟩
    have hother : ∀ y ∈ xs, y.host ≠ x.host ∧ st.found y.host = false := by
      intro y hy
      have h := hnew y hy
      rw [found_addAddress, Bool.or_eq_false_iff, decide_eq_false_iff_not] at h
      exact h
    refine ⟨x :: xs, (addressItems_cons _ _).symm, ?_, ?_, hst'⟩
    · rw [List.map_cons, List.nodup_cons]
      refine ⟨?_, hnodup⟩
      intro hmem
      obtain ⟨y, hy, hhost⟩ := List.mem_map.1 hmem
      exact (hother y hy).1 hhost
    · intro y hy
      rcases List.mem_cons.1 hy with rfl | hy
      · exact hfound
      · exact (hother y hy).2
  · rintro ⟨_ | ⟨⟨host, addr, port⟩, xs⟩, his, hnodup, hnew, hst'⟩
    · cases his
    · obtain ⟨host', addr', port'⟩ := x
      rw [addressItems_cons] at his
      cases his
      rw [List.map_cons, List.nodup_cons] at hnodup
      refine ⟨hnew _ List.mem_cons_self, xs, rfl, hnodup.2, ?_, hst'⟩
      intro y hy
      rw [found_addAddress, Bool.or_eq_false_iff, decide_eq_false_iff_not]
      refine ⟨?_, hnew y (List.mem_cons_of_mem _ hy)⟩
      intro heq
      have hmem := List.mem_map_of_mem (f := Address.host) hy
      rw [heq] at hmem
      exact hnodup.1 hmem

/-- **Without ages, the loop gets to the end and waits for no port exactly on pairs of an address
and a port, one of a family at most.** -/
theorem items_eq_some_iff_addresses :
    ∀ {st : FromAnswer} {is : List Item}, st.expectPortFor = none → (∀ age, .age age ∉ is) →
    ((st.items is = some st' ∧ st'.expectPortFor = none) ↔
      ∃ xs, is = addressItems xs ∧ (xs.map Address.host).Nodup ∧
        (∀ x ∈ xs, st.found x.host = false) ∧ st' = xs.foldl addAddress st)
  | st, [], hport, _ => by
      constructor
      · rintro ⟨h, -⟩
        cases h
        exact ⟨[], rfl, List.nodup_nil, nofun, rfl⟩
      · rintro ⟨_ | _, his, -, -, rfl⟩
        · exact ⟨rfl, hport⟩
        · cases his
  | _, .age age :: _, _, hage => absurd List.mem_cons_self (hage age)
  | st, .port port :: is, hport, _ => by
      constructor
      · rintro ⟨h, -⟩
        rw [items_cons, item, hport] at h
        cases h
      · rintro ⟨_ | _, his, -⟩ <;> cases his
  | st, .addr host addr :: .port port :: is, hport, hage => by
      have hrest : ∀ age, .age age ∉ is := fun age h =>
        hage age (List.mem_cons_of_mem _ (List.mem_cons_of_mem _ h))
      have ih := items_eq_some_iff_addresses
        (expectPortFor_addAddress st ⟨host, addr, port⟩) hrest
      rw [items_addr_cons hport, items_expect_cons, ← addresses_cons_iff st st' ⟨host, addr, port⟩,
        ← ih]
      cases st.found host <;> simp
  | st, .addr host addr :: .addr host' addr' :: is, hport, _ => by
      constructor
      · rintro ⟨h, -⟩
        rw [items_addr_cons hport, items_cons, item, expectPortFor_expect] at h
        split at h <;> cases h
      · rintro ⟨_ | _, his, -⟩ <;> cases his
  | _, .addr _ _ :: .age age :: _, _, hage =>
      absurd (List.mem_cons_of_mem _ List.mem_cons_self) (hage age)
  | st, [.addr host addr], hport, _ => by
      constructor
      · rintro ⟨h, hst'⟩
        rw [items_addr_cons hport, items_nil] at h
        split at h
        · cases h
        · cases h
          rw [expectPortFor_expect] at hst'
          cases hst'
      · rintro ⟨_ | _, his, -⟩ <;> cases his

/-! ## The age -/

@[simp] theorem foundAge_expect (st : FromAnswer) (host : Host) (addr : SockaddrStr) :
    (st.expect host addr).foundAge = st.foundAge := by cases host <;> rfl

@[simp] theorem foundAge_setPort (st : FromAnswer) (host : Host) (port : UInt16) :
    (st.setPort host port).foundAge = st.foundAge := by cases host <;> rfl

/-- Only an age tells that there was one. -/
theorem foundAge_item {i : Item} (h : st.item i = some st') (hi : ∀ age, i ≠ .age age) :
    st'.foundAge = st.foundAge := by
  cases i with
  | age age => exact absurd rfl (hi age)
  | addr host addr =>
      simp only [item] at h
      split at h
      · cases h
      · split at h
        · cases h
        · cases h
          exact st.foundAge_expect host addr
  | port port =>
      simp only [item] at h
      split at h
      · cases h
      · cases h
        exact st.foundAge_setPort _ port

@[simp] theorem expectPortFor_setAge (st : FromAnswer) (age : UInt32) :
    (st.setAge age).expectPortFor = st.expectPortFor := rfl

theorem found_setAge (st : FromAnswer) (age : UInt32) (host : Host) :
    (st.setAge age).found host = st.found host := by cases host <;> rfl

theorem expect_setAge (st : FromAnswer) (age : UInt32) (host : Host) (addr : SockaddrStr) :
    (st.setAge age).expect host addr = (st.expect host addr).setAge age := by cases host <;> rfl

theorem setPort_setAge (st : FromAnswer) (age : UInt32) (host : Host) (port : UInt16) :
    (st.setAge age).setPort host port = (st.setPort host port).setAge age := by cases host <;> rfl

/-- The age changes nothing for what is not one. -/
theorem item_setAge {i : Item} (hi : ∀ age, i ≠ .age age) (age : UInt32) :
    (st.setAge age).item i = (st.item i).map fun st => st.setAge age := by
  cases i with
  | age age => exact absurd rfl (hi age)
  | addr host addr =>
      rw [item, item, expectPortFor_setAge, found_setAge, expect_setAge]
      cases st.expectPortFor with
      | none => cases st.found host <;> rfl
      | some host' => rfl
  | port port =>
      rw [item, item, expectPortFor_setAge]
      cases st.expectPortFor with
      | none => rfl
      | some host => exact congrArg some (st.setPort_setAge age host port)

theorem foundAge_items {is : List Item} (h : st.items is = some st')
    (his : ∀ age, .age age ∉ is) : st'.foundAge = st.foundAge := by
  induction is generalizing st with
  | nil =>
      cases h
      rfl
  | cons i is ih =>
      obtain ⟨st₁, h₁, h⟩ := Option.bind_eq_some_iff.1 h
      rw [ih h fun age hage => his age (List.mem_cons_of_mem _ hage),
        foundAge_item h₁ fun age hi => his age (hi ▸ List.mem_cons_self)]

theorem items_setAge {is : List Item} (his : ∀ age, .age age ∉ is) (age : UInt32) :
    (st.setAge age).items is = (st.items is).map fun st => st.setAge age := by
  induction is generalizing st with
  | nil => rfl
  | cons i is ih =>
      rw [items_cons, items_cons, item_setAge fun age hi => his age (hi ▸ List.mem_cons_self)]
      cases st.item i with
      | none => rfl
      | some st₁ => exact ih fun age hage => his age (List.mem_cons_of_mem _ hage)

/-- Behind an age there is no other one. -/
theorem no_age_of_foundAge {is : List Item} (h : st.items is = some st')
    (hst : st.foundAge = true) : st'.foundAge = true ∧ ∀ age, .age age ∉ is := by
  induction is generalizing st with
  | nil =>
      cases h
      exact ⟨hst, nofun⟩
  | cons i is ih =>
      obtain ⟨st₁, h₁, h⟩ := Option.bind_eq_some_iff.1 h
      have hi : ∀ age, i ≠ .age age := by
        rintro age rfl
        simp [item, hst] at h₁
      obtain ⟨hst', his⟩ := ih h ((foundAge_item h₁ hi).trans hst)
      refine ⟨hst', fun age hage => ?_⟩
      rcases List.mem_cons.1 hage with heq | hage
      · exact hi age heq.symm
      · exact his age hage

/-- **The loop finds an age exactly if there is one, wherever it stands, and it goes on without
it.** -/
theorem items_eq_some_iff_age (hst : st.foundAge = false) (is : List Item) :
    (st.items is = some st' ∧ st'.foundAge = true) ↔
      ∃ front age back st₁, is = front ++ .age age :: back ∧
        (∀ age, .age age ∉ front ++ back) ∧ st.items (front ++ back) = some st₁ ∧
        st' = st₁.setAge age := by
  constructor
  · rintro ⟨h, hst'⟩
    by_cases hage : ∃ age, .age age ∈ is
    · obtain ⟨age, hmem⟩ := hage
      obtain ⟨front, back, rfl⟩ := List.append_of_mem hmem
      rw [items_append] at h
      obtain ⟨st₁, hfront, h⟩ := Option.bind_eq_some_iff.1 h
      obtain ⟨st₂, hitem, hback⟩ := Option.bind_eq_some_iff.1 h
      have hst₁ : st₁.foundAge = false := by
        refine Bool.eq_false_iff.2 fun hst₁ => ?_
        simp [item, hst₁] at hitem
      simp only [item, hst₁, Bool.false_eq_true, if_false, Option.some.injEq] at hitem
      obtain rfl := hitem
      have hnone := (no_age_of_foundAge hback rfl).2
      have hfirst : ∀ age, .age age ∉ front := by
        intro age' hage'
        obtain ⟨front₁, front₂, rfl⟩ := List.append_of_mem hage'
        rw [items_append] at hfront
        obtain ⟨st₃, -, hfront⟩ := Option.bind_eq_some_iff.1 hfront
        obtain ⟨st₄, hitem, hfront⟩ := Option.bind_eq_some_iff.1 hfront
        have hst₄ : st₄.foundAge = true := by
          simp only [item] at hitem
          split at hitem
          · cases hitem
          · cases hitem
            rfl
        rw [(no_age_of_foundAge hfront hst₄).1] at hst₁
        cases hst₁
      rw [items_setAge hnone] at hback
      obtain ⟨st₃, hst₃, rfl⟩ := Option.map_eq_some_iff.1 hback
      refine ⟨front, age, back, st₃, rfl, ?_, ?_, rfl⟩
      · intro age' hmem
        rcases List.mem_append.1 hmem with hmem | hmem
        · exact hfirst age' hmem
        · exact hnone age' hmem
      · rw [items_append, hfront]
        exact hst₃
    · rw [foundAge_items h fun age hmem => hage ⟨age, hmem⟩, hst] at hst'
      cases hst'
  · rintro ⟨front, age, back, st₁, rfl, hnone, h, rfl⟩
    rw [items_append] at h
    obtain ⟨st₂, hfront, hback⟩ := Option.bind_eq_some_iff.1 h
    have hst₂ : st₂.foundAge = false :=
      (foundAge_items hfront fun age hmem => hnone age (List.mem_append_left _ hmem)).trans hst
    refine ⟨?_, rfl⟩
    rw [items_append, hfront, Option.bind_some, items_cons, item, hst₂]
    simp only [Bool.false_eq_true, if_false, Option.bind_some]
    rw [items_setAge fun age hmem => hnone age (List.mem_append_right _ hmem), hback]
    rfl

end FromAnswer

/-! ## What is accepted -/

/-- An age anywhere among pairs of an address and a port; there is such a pair, and of a family
there is one at most. -/
structure AnswerGrammar (is : List Item) (age : UInt32) (xs : List Address) : Prop where
  age_among : ∃ front back, is = front ++ .age age :: back ∧ front ++ back = addressItems xs
  nonempty : xs ≠ []
  families : (xs.map Address.host).Nodup

/-- The address of a family, with its port; without one, nothing is set. -/
def addressOf (xs : List Address) (host : Host) : SockaddrStr :=
  match xs.find? fun x => x.host = host with
  | some x => { x.addr with port := x.port }
  | none => SockaddrStr.zero

/-- The result of such an answer. -/
def grammarResult (age : UInt32) (xs : List Address) : Result :=
  { Result.zero with
    rc := .result, age := age, hostV4 := addressOf xs .v4, hostV6 := addressOf xs .v6 }

namespace FromAnswer

/-- Where the address of a family is kept. -/
def hostAddr (st : FromAnswer) : Host → SockaddrStr
  | .v4 => st.result.hostV4
  | .v6 => st.result.hostV6

theorem hostAddr_addAddress (st : FromAnswer) (x : Address) (host : Host) :
    (st.addAddress x).hostAddr host =
      if x.host = host then { x.addr with port := x.port } else st.hostAddr host := by
  obtain ⟨h, addr, port⟩ := x
  cases h <;> cases host <;> rfl

/-- The loop leaves the address of a family where it was found. -/
theorem hostAddr_foldl {xs : List Address} (hnodup : (xs.map Address.host).Nodup)
    (st : FromAnswer) (host : Host) :
    (xs.foldl addAddress st).hostAddr host =
      match xs.find? fun x => x.host = host with
      | some x => { x.addr with port := x.port }
      | none => st.hostAddr host := by
  induction xs generalizing st with
  | nil => rfl
  | cons x xs ih =>
      rw [List.map_cons, List.nodup_cons] at hnodup
      rw [List.foldl_cons, ih hnodup.2, List.find?_cons, hostAddr_addAddress]
      by_cases hx : x.host = host
      · have hnone : xs.find? (fun y => y.host = host) = none := by
          refine List.find?_eq_none.2 fun y hy => ?_
          intro hhost
          have hmem := List.mem_map_of_mem (f := Address.host) hy
          rw [of_decide_eq_true hhost, ← hx] at hmem
          exact hnodup.1 hmem
        simp [hnone, hx]
      · simp [hx]

theorem found_foldl (xs : List Address) (st : FromAnswer) (host : Host) :
    (xs.foldl addAddress st).found host =
      (xs.any (fun x => decide (host = x.host)) || st.found host) := by
  induction xs generalizing st with
  | nil => rfl
  | cons x xs ih =>
      rw [List.foldl_cons, ih, found_addAddress, List.any_cons]
      cases decide (host = x.host) <;> simp

/-- The rest of the result is as it was. -/
theorem foldl_addAddress_rest (xs : List Address) (st : FromAnswer) :
    (xs.foldl addAddress st).result.last = st.result.last := by
  induction xs generalizing st with
  | nil => rfl
  | cons x xs ih =>
      rw [List.foldl_cons, ih]
      obtain ⟨h, addr, port⟩ := x
      cases h <;> rfl

/-- There was an address exactly if there is one among the pairs. -/
theorem found_some_iff (xs : List Address) :
    ((xs.foldl addAddress start).foundIpV4 || (xs.foldl addAddress start).foundIpV6) = true ↔
      xs ≠ [] := by
  have h4 := found_foldl xs start .v4
  have h6 := found_foldl xs start .v6
  simp only [found, start, Bool.or_false] at h4 h6
  rw [start, h4, h6]
  cases xs with
  | nil => simp
  | cons x xs =>
      obtain ⟨h, addr, port⟩ := x
      cases h <;> simp

/-- What is returned after the pairs and the age. -/
theorem result_foldl {xs : List Address} (hnodup : (xs.map Address.host).Nodup) (age : UInt32) :
    { ((xs.foldl addAddress start).setAge age).result with rc := ResultCode.result } =
      grammarResult age xs := by
  have h4 := hostAddr_foldl hnodup start .v4
  have h6 := hostAddr_foldl hnodup start .v6
  have hlast := foldl_addAddress_rest xs start
  simp only [hostAddr] at h4 h6
  simp only [setAge, h4, h6, hlast]
  rfl

end FromAnswer

/-- **The parser accepts its grammar and nothing else**, and what it returns is in the records: the
age, and for each family the address with the port behind it. -/
theorem resultFromAnswer_eq_ok_iff (lib : Libosmocore) (ans : Answer) (result : Result) :
    resultFromAnswer lib ans = .ok result ↔
      ∃ is age xs, ans.records.map (itemOf lib) = is.map some ∧ AnswerGrammar is age xs ∧
        result = grammarResult age xs := by
  constructor
  · intro h
    obtain ⟨st, hst, h⟩ := Except.bind_eq_ok.1 h
    obtain ⟨is, hrecords, hitems⟩ := FromAnswer.records_eq_ok_iff.1 hst
    split at h
    · cases h
    next hdone =>
        simp only [Bool.or_eq_true, Bool.not_eq_true', not_or, Bool.not_eq_false,
          Bool.not_eq_true, Option.isSome_eq_false_iff, Option.isNone_iff_eq_none] at hdone
        obtain ⟨⟨hage, hfound⟩, hport⟩ := hdone
        obtain ⟨front, age, back, st₁, rfl, hnone, hst₁, rfl⟩ :=
          (FromAnswer.items_eq_some_iff_age rfl is).1 ⟨hitems, hage⟩
        obtain ⟨xs, hxs, hnodup, -, rfl⟩ :=
          (FromAnswer.items_eq_some_iff_addresses rfl hnone).1 ⟨hst₁, hport⟩
        cases h
        refine ⟨_, age, xs, hrecords, ⟨⟨front, back, rfl, hxs⟩, ?_, hnodup⟩,
          FromAnswer.result_foldl hnodup age⟩
        exact (FromAnswer.found_some_iff xs).1 (by simpa [FromAnswer.setAge] using hfound)
  · rintro ⟨is, age, xs, hrecords, ⟨⟨front, back, rfl, hxs⟩, hne, hnodup⟩, rfl⟩
    have hnone : ∀ age, .age age ∉ front ++ back := by
      rw [hxs]
      exact age_not_mem_addressItems xs
    have hnew : ∀ x ∈ xs, FromAnswer.start.found x.host = false := by
      intro x _
      cases x.host <;> rfl
    obtain ⟨hrun, hport⟩ := (FromAnswer.items_eq_some_iff_addresses rfl hnone).2
      ⟨xs, hxs, hnodup, hnew, rfl⟩
    obtain ⟨hitems, hage⟩ := (FromAnswer.items_eq_some_iff_age rfl _).2
      ⟨front, age, back, _, rfl, hnone, hrun, rfl⟩
    have hfound := (FromAnswer.found_some_iff xs).2 hne
    have hst := FromAnswer.records_eq_ok_iff.2 ⟨_, hrecords, hitems⟩
    rw [resultFromAnswer, hst, Except.ok_bind, if_neg, FromAnswer.result_foldl hnodup age]
    simp only [FromAnswer.setAge, hfound, hport]
    decide

end Mdns
end OsmoHlr
