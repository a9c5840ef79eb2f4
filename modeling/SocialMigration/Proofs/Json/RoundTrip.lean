import SocialMigration.Proofs.Json.Nesting

/-!
# Spelled values read back

A legible value without doubles is read back from its text, in every spelling and in every layout
that sets parts apart by space only, if there is room for its arrays and objects in each other; if
there is none, reading stops at one of them. The induction is on the value. What it carries is that
the value is read in front of anything that does not continue a number, so that the readers of items
and fields can go on behind it.
-/

namespace SocialMigration

namespace Json

variable {spelling : Spelling} {layout : Layout} {space rest text : Text}
  {depth room rounds : Nat} {value : Json}

/-! ## Space -/

theorem skipSpace_append (blank : space.all isSpace = true) (text : Text) :
    skipSpace (space ++ text) = skipSpace text :=
  List.dropWhile_append_of_pos (List.all_eq_true.mp blank)

theorem skipSpace_cons {c : CodePoint} (solid : isSpace c = false) :
    skipSpace (c :: rest) = c :: rest :=
  List.dropWhile_cons_of_neg (by simp [solid])

/-- Whether a text starts like a value: with what is neither space, nor the end of an array or
object, nor a byte order mark. -/
def OpensValue (text : Text) : Prop :=
  ∃ c after, text = c :: after ∧ isSpace c = false ∧ c ≠ 0x5D ∧ c ≠ 0x7D ∧ c ≠ 0xFEFF

theorem OpensValue.append (opens : OpensValue text) (rest : Text) : OpensValue (text ++ rest) := by
  rcases opens with ⟨c, after, rfl, facts⟩
  exact ⟨c, after ++ rest, rfl, facts⟩

theorem OpensValue.skipSpace_eq (opens : OpensValue text) : skipSpace text = text := by
  rcases opens with ⟨c, after, rfl, solid, -⟩
  exact skipSpace_cons solid

theorem opensValue_ofInt (value : Int) : OpensValue (Text.ofInt value) := by
  have facts : ∀ c ∈ Text.ofInt value, isSpace c = false ∧ c ≠ 0x5D ∧
      c ≠ 0x7D ∧ c ≠ 0xFEFF :=
    forall_mem_ofInt value (by decide) (by decide)
  cases written : Text.ofInt value with
  | nil => exact absurd written (ofInt_ne_nil value)
  | cons c after => exact ⟨c, after, rfl, facts c (by simp [written])⟩

theorem opensValue_spelledString (spelling : Spelling) (text : Text) :
    OpensValue (spelledString spelling text) :=
  ⟨0x22, _, rfl, by decide⟩

/-- A string is longer than the text, by its quotes at least. -/
theorem length_spelledString (spelling : Spelling) (text : Text) :
    text.length + 2 ≤ (spelledString spelling text).length := by
  have spelled : text.length ≤ (text.flatMap spelling.spell).length := by
    induction text with
    | nil => exact Nat.le_refl 0
    | cons c text ih =>
        have one := List.length_pos_iff.mpr (spelling.spells c).ne_nil
        rw [List.flatMap_cons, List.length_append, List.length_cons]
        omega
  rw [spelledString, List.length_cons, List.length_append, List.length_singleton]
  omega

/-- The text of a value starts like one, if it is no double. -/
theorem opensValue_spelledAt (single : value.isFloat = false) :
    OpensValue (spelledAt spelling layout depth value) := by
  cases value with
  | null => exact ⟨0x6E, _, by rw [spelledAt]; rfl, by decide⟩
  | bool value =>
      cases value with
      | false => exact ⟨0x66, _, by rw [spelledAt]; rfl, by decide⟩
      | true => exact ⟨0x74, _, by rw [spelledAt]; rfl, by decide⟩
  | int value =>
      rw [spelledAt]
      exact opensValue_ofInt value
  | float value => exact nomatch single
  | str text =>
      rw [spelledAt]
      exact opensValue_spelledString spelling text
  | arr items =>
      cases items with
      | nil => exact ⟨0x5B, _, by rw [spelledAt], by decide⟩
      | cons item items => exact ⟨0x5B, _, by rw [spelledAt], by decide⟩
  | obj fields =>
      cases fields with
      | nil => exact ⟨0x7B, _, by rw [spelledAt], by decide⟩
      | cons field fields => exact ⟨0x7B, _, by rw [spelledAt], by decide⟩

/-! ## Parts -/

/-- Whether what is read is a value, if the value fits, and stops at an opening if it does not. -/
def ReadsIf (fits : Prop) (value : Json) (rest : Text) (result : Except Fault (Json × Text)) :
    Prop :=
  (fits ∧ result = .ok (value, rest)) ∨ (¬ fits ∧ ∃ opened, result = .error (.tooDeep opened))

theorem ReadsIf.of_iff {fits fits' : Prop} {result : Except Fault (Json × Text)}
    (reads : ReadsIf fits value rest result) (same : fits ↔ fits') :
    ReadsIf fits' value rest result := by
  rwa [← propext same]

/-- Whether the text of a value starts like one, and is read back in front of anything that does not
continue a number, as far as there is room. -/
structure ReadsBack (spelling : Spelling) (layout : Layout) (value : Json) : Prop where
  opens : ∀ depth, OpensValue (spelledAt spelling layout depth value)
  reads : ∀ depth room rounds rest, endsNumber rest = true →
    2 * (spelledAt spelling layout depth value).length ≤ rounds →
    ReadsIf (value.nesting ≤ room) value rest
      (readValue room rounds (spelledAt spelling layout depth value ++ rest))

theorem endsNumber_of_isSpace {c : CodePoint} (space : isSpace c = true) :
    endsNumber (c :: rest) = true := by
  simp only [isSpace, Bool.or_eq_true, beq_iff_eq] at space
  rcases space with ((rfl | rfl) | rfl) | rfl <;> rfl

/-- Space in front of a text that ends a number ends it as well. -/
theorem endsNumber_append (blank : space.all isSpace = true) (ends : endsNumber rest = true) :
    endsNumber (space ++ rest) = true := by
  cases space with
  | nil => exact ends
  | cons c space =>
      exact endsNumber_of_isSpace (List.all_eq_true.mp blank c List.mem_cons_self)

theorem endsNumber_spelledItems (spelling : Spelling) (plain : layout.IsBlank) (depth : Nat)
    (items : List Json) (ends : endsNumber rest = true) :
    endsNumber (spelledItems spelling layout depth items ++ rest) = true := by
  rcases plain.comma with ⟨_, comma, -⟩
  cases items with
  | nil => exact ends
  | cons item items =>
      rw [spelledItems, comma]
      rfl

theorem endsNumber_spelledFields (spelling : Spelling) (plain : layout.IsBlank) (depth : Nat)
    (fields : List (Text × Json)) (ends : endsNumber rest = true) :
    endsNumber (spelledFields spelling layout depth fields ++ rest) = true := by
  rcases plain.comma with ⟨_, comma, -⟩
  cases fields with
  | nil => exact ends
  | cons field fields =>
      rw [spelledFields, comma]
      rfl

section Steps

variable {item : Json} {items read : List Json} {fields settings : List (Text × Json)}
  {key left after afterKey afterColon : Text}

theorem readItems_last (found : readValue room rounds text = .ok (item, left))
    (bracket : skipSpace left = 0x5D :: after) :
    readItems room (rounds + 1) read text = .ok (.arr (read.reverse ++ [item]), after) := by
  simp [readItems, found, bracket]

theorem readItems_more (found : readValue room rounds text = .ok (item, left))
    (comma : skipSpace left = 0x2C :: after) :
    readItems room (rounds + 1) read text =
      readItems room rounds (item :: read) (skipSpace after) := by
  simp [readItems, found, comma]

theorem readItems_stop {fault : Fault} (found : readValue room rounds text = .error fault) :
    readItems room (rounds + 1) read text = .error fault := by
  rw [readItems, found]

/-- After a key and the colon, a field is read as its value is. -/
theorem readFields_key (plain : layout.IsBlank) (unpaired : key.isUnpaired = true)
    (enough : key.length < rounds) (opens : OpensValue text) :
    readFields room (rounds + 1) settings
      (spelledString spelling key ++ (layout.colon ++ text)) =
      match readValue room rounds text with
      | .error fault => .error fault
      | .ok (value, left) =>
        match skipSpace left with
        | [] => .error (.found .commaExpected [])
        | c :: after =>
          if c == 0x7D then .ok (.ofSettings ((key, value) :: settings).reverse, after)
          else if c == 0x2C then
            readFields room rounds ((key, value) :: settings) (skipSpace after)
          else .error (.found .commaExpected (c :: after)) := by
  rcases plain.colon with ⟨space, colon, blank⟩
  have keyFound := readQuoted_spelled spelling unpaired enough (layout.colon ++ text)
  have afterKey : skipSpace (layout.colon ++ text) = 0x3A :: (space ++ text) := by
    rw [colon]
    exact skipSpace_cons (by decide)
  have spaced : skipSpace (space ++ text) = text := by
    rw [skipSpace_append blank, opens.skipSpace_eq]
  rw [spelledString, List.cons_append] at keyFound ⊢
  cases found : readValue room rounds text
  all_goals
    simp only [readFields, keyFound, afterKey, spaced, found, beq_self_eq_true, if_true] <;> rfl

theorem readFields_last (plain : layout.IsBlank) (unpaired : key.isUnpaired = true)
    (enough : key.length < rounds) (opens : OpensValue text)
    (found : readValue room rounds text = .ok (value, left))
    (brace : skipSpace left = 0x7D :: after) :
    readFields room (rounds + 1) settings
      (spelledString spelling key ++ (layout.colon ++ text)) =
      .ok (.ofSettings (settings.reverse ++ [(key, value)]), after) := by
  simp [readFields_key plain unpaired enough opens, found, brace]

theorem readFields_more (plain : layout.IsBlank) (unpaired : key.isUnpaired = true)
    (enough : key.length < rounds) (opens : OpensValue text)
    (found : readValue room rounds text = .ok (value, left))
    (comma : skipSpace left = 0x2C :: after) :
    readFields room (rounds + 1) settings
      (spelledString spelling key ++ (layout.colon ++ text)) =
      readFields room rounds ((key, value) :: settings) (skipSpace after) := by
  simp [readFields_key plain unpaired enough opens, found, comma]

theorem readFields_stop (plain : layout.IsBlank) (unpaired : key.isUnpaired = true)
    (enough : key.length < rounds) (opens : OpensValue text) {fault : Fault}
    (found : readValue room rounds text = .error fault) :
    readFields room (rounds + 1) settings
      (spelledString spelling key ++ (layout.colon ++ text)) = .error fault := by
  rw [readFields_key plain unpaired enough opens, found]

/-- The space after a separator and before a part is skipped. -/
theorem skipSpace_opening (plain : layout.IsBlank) (blank : space.all isSpace = true)
    (opens : OpensValue text) : skipSpace (space ++ (layout.opening depth ++ text)) = text := by
  rw [skipSpace_append blank, skipSpace_append (plain.opening depth), opens.skipSpace_eq]

/-- Items that are each read back are read to the end of their array, in front of which there may
be space, unless there is no room for one of them. -/
theorem readItems_spelled (plain : layout.IsBlank) {closing : Text}
    (closes : closing.all isSpace = true) (first : ReadsBack spelling layout item)
    (others : ∀ item ∈ items, ReadsBack spelling layout item)
    (enough : 2 * (spelledAt spelling layout depth item ++
      spelledItems spelling layout depth items).length < rounds) :
    ReadsIf (∀ part ∈ item :: items, part.nesting ≤ room)
      (.arr (read.reverse ++ item :: items)) rest
      (readItems room rounds read (spelledAt spelling layout depth item ++
        (spelledItems spelling layout depth items ++ (closing ++ 0x5D :: rest)))) := by
  have ends : endsNumber (closing ++ 0x5D :: rest) = true := endsNumber_append closes rfl
  induction items generalizing item read rounds with
  | nil =>
      rcases Nat.exists_eq_add_of_lt enough with ⟨spare, rfl⟩
      rw [spelledItems, List.nil_append, List.append_nil]
      have bracket : skipSpace (closing ++ 0x5D :: rest) = 0x5D :: rest := by
        rw [skipSpace_append closes, skipSpace_cons (by decide)]
      rcases first.reads depth room _ _ ends (Nat.le_add_right ..) with
        ⟨fits, found⟩ | ⟨unfit, opened, found⟩
      · exact .inl ⟨List.forall_mem_singleton.mpr fits, readItems_last found bracket⟩
      · exact .inr ⟨fun all => unfit (all item List.mem_cons_self), opened, readItems_stop found⟩
  | cons next items ih =>
      rcases plain.comma with ⟨space, comma, blank⟩
      rcases List.forall_mem_cons.mp others with ⟨second, others⟩
      simp only [spelledItems, comma, List.length_append, List.length_cons] at enough
      cases rounds with
      | zero => exact absurd enough (Nat.not_lt_zero _)
      | succ rounds =>
          have left : skipSpace (spelledItems spelling layout depth (next :: items) ++
              (closing ++ 0x5D :: rest)) =
              0x2C :: (space ++ (layout.opening depth ++ (spelledAt spelling layout depth next ++
                (spelledItems spelling layout depth items ++ (closing ++ 0x5D :: rest))))) := by
            simp only [spelledItems, comma, List.cons_append, List.append_assoc]
            exact skipSpace_cons (by decide)
          rcases first.reads depth room rounds _
            (endsNumber_spelledItems spelling plain depth (next :: items) ends) (by omega) with
            ⟨fits, found⟩ | ⟨unfit, opened, found⟩
          · rw [readItems_more found left,
              skipSpace_opening plain blank ((second.opens depth).append _)]
            have further := @ih rounds next (item :: read) second others
              (by rw [List.length_append]; omega)
            rw [List.reverse_cons, List.append_assoc] at further
            exact further.of_iff ⟨fun others => List.forall_mem_cons.mpr ⟨fits, others⟩,
              fun all => (List.forall_mem_cons.mp all).2⟩
          · exact .inr ⟨fun all => unfit (all item List.mem_cons_self), opened,
              readItems_stop found⟩

/-- Fields whose values are each read back are read to the end of their object, unless there is no
room for one of them. -/
theorem readFields_spelled (plain : layout.IsBlank) {closing : Text}
    (closes : closing.all isSpace = true) (unpaired : key.isUnpaired = true)
    (first : ReadsBack spelling layout value)
    (others : ∀ field ∈ fields, field.1.isUnpaired = true ∧ ReadsBack spelling layout field.2)
    (enough : 2 * (spelledString spelling key ++ (spelledAt spelling layout depth value ++
      spelledFields spelling layout depth fields)).length < rounds) :
    ReadsIf (∀ field ∈ (key, value) :: fields, field.2.nesting ≤ room)
      (.ofSettings (settings.reverse ++ (key, value) :: fields)) rest
      (readFields room rounds settings (spelledString spelling key ++ (layout.colon ++
        (spelledAt spelling layout depth value ++ (spelledFields spelling layout depth fields ++
          (closing ++ 0x7D :: rest)))))) := by
  have ends : endsNumber (closing ++ 0x7D :: rest) = true := endsNumber_append closes rfl
  have opens {more : Text} := (first.opens depth).append more
  induction fields generalizing key value settings rounds with
  | nil =>
      rw [List.length_append, List.length_append] at enough
      have keyEnough := length_spelledString spelling key
      cases rounds with
      | zero => exact absurd enough (Nat.not_lt_zero _)
      | succ rounds =>
          rw [spelledFields, List.nil_append]
          have brace : skipSpace (closing ++ 0x7D :: rest) = 0x7D :: rest := by
            rw [skipSpace_append closes, skipSpace_cons (by decide)]
          rcases first.reads depth room rounds _ ends (by omega) with
            ⟨fits, found⟩ | ⟨unfit, opened, found⟩
          · exact .inl ⟨List.forall_mem_singleton.mpr fits,
              readFields_last plain unpaired (by omega) opens found brace⟩
          · exact .inr ⟨fun all => unfit (all _ List.mem_cons_self), opened,
              readFields_stop plain unpaired (by omega) opens found⟩
  | cons next fields ih =>
      rcases plain.comma with ⟨space, comma, blank⟩
      rcases List.forall_mem_cons.mp others with ⟨second, others⟩
      have keyEnough := length_spelledString spelling key
      simp only [spelledFields, comma, List.length_append, List.length_cons] at enough
      cases rounds with
      | zero => exact absurd enough (Nat.not_lt_zero _)
      | succ rounds =>
          have left : skipSpace (spelledFields spelling layout depth (next :: fields) ++
              (closing ++ 0x7D :: rest)) =
              0x2C :: (space ++ (layout.opening depth ++ (spelledString spelling next.1 ++
                (layout.colon ++ (spelledAt spelling layout depth next.2 ++
                  (spelledFields spelling layout depth fields ++
                    (closing ++ 0x7D :: rest))))))) := by
            simp only [spelledFields, comma, List.cons_append, List.append_assoc]
            exact skipSpace_cons (by decide)
          rcases first.reads depth room rounds _
            (endsNumber_spelledFields spelling plain depth (next :: fields) ends) (by omega) with
            ⟨fits, found⟩ | ⟨unfit, opened, found⟩
          · rw [readFields_more plain unpaired (by omega) opens found left,
              skipSpace_opening plain blank ((opensValue_spelledString spelling next.1).append _)]
            have further := @ih rounds next.2 ((key, value) :: settings) next.1 second.1 second.2
              others (by simp only [List.length_append]; omega) ((second.2.opens depth).append _)
            rw [List.reverse_cons, List.append_assoc] at further
            exact further.of_iff ⟨fun others => List.forall_mem_cons.mpr ⟨fits, others⟩,
              fun all => (List.forall_mem_cons.mp all).2⟩
          · exact .inr ⟨fun all => unfit (all _ List.mem_cons_self), opened,
              readFields_stop plain unpaired (by omega) opens found⟩

end Steps

/-! ## Values -/

/-- Some round is left for a value whenever its text fits. -/
theorem ReadsBack.of_succ (single : value.isFloat = false)
    (reads : ∀ depth room rounds rest, endsNumber rest = true →
      2 * (spelledAt spelling layout depth value).length ≤ rounds + 1 →
      ReadsIf (value.nesting ≤ room) value rest
        (readValue room (rounds + 1) (spelledAt spelling layout depth value ++ rest))) :
    ReadsBack spelling layout value where
  opens _ := opensValue_spelledAt single
  reads depth room rounds rest ends enough := by
    have opens : OpensValue (spelledAt spelling layout depth value) := opensValue_spelledAt single
    cases rounds with
    | zero =>
        rcases opens with ⟨c, after, written, -⟩
        exact absurd enough (by simp [written])
    | succ rounds => exact reads depth room rounds rest ends enough

/-- A value without parts takes no room. -/
theorem ReadsBack.of_single (single : value.isFloat = false) (flat : value.nesting = 0)
    (reads : ∀ depth room rounds rest, endsNumber rest = true →
      2 * (spelledAt spelling layout depth value).length ≤ rounds + 1 →
      readValue room (rounds + 1) (spelledAt spelling layout depth value ++ rest) =
        .ok (value, rest)) :
    ReadsBack spelling layout value :=
  .of_succ single fun depth room rounds rest ends enough =>
    .inl ⟨flat ▸ Nat.zero_le room, reads depth room rounds rest ends enough⟩

/-- A value is read back if its word is. -/
theorem readsBack_word {word : Text} (single : value.isFloat = false) (flat : value.nesting = 0)
    (written : ∀ depth, spelledAt spelling layout depth value = word)
    (found : ∀ rest, readWord? (word ++ rest) = some (value, rest))
    (apart : ∃ c tail, word = c :: tail ∧ c ≠ 0x22 ∧ c ≠ 0x5B ∧ c ≠ 0x7B) :
    ReadsBack spelling layout value := by
  refine .of_single single flat fun depth room rounds rest _ _ => ?_
  have word := found rest
  rcases apart with ⟨c, tail, rfl, quote, bracket, brace⟩
  rw [List.cons_append] at word
  rw [written, List.cons_append, readValue]
  simp [quote, bracket, brace, word]

theorem readsBack_null : ReadsBack spelling layout null :=
  readsBack_word rfl rfl (fun _ => by rw [spelledAt]) (fun _ => rfl)
    ⟨0x6E, [0x75, 0x6C, 0x6C], by decide⟩

theorem readsBack_bool (value : Bool) : ReadsBack spelling layout (bool value) := by
  cases value with
  | false =>
      exact readsBack_word rfl rfl (fun _ => by rw [spelledAt]) (fun _ => rfl)
        ⟨0x66, [0x61, 0x6C, 0x73, 0x65], by decide⟩
  | true =>
      exact readsBack_word rfl rfl (fun _ => by rw [spelledAt]) (fun _ => rfl)
        ⟨0x74, [0x72, 0x75, 0x65], by decide⟩

theorem readsBack_int {value : Int} (short : isShort value = true) :
    ReadsBack spelling layout (int value) := by
  refine .of_single rfl rfl fun depth room rounds rest ends _ => ?_
  have apart : ∀ c ∈ Text.ofInt value, c ≠ 0x22 ∧ c ≠ 0x5B ∧ c ≠ 0x7B :=
    forall_mem_ofInt value (by decide) (by decide)
  have noWord := readWord?_ofInt value rest
  have number := readNumber?_ofInt short ends
  rw [spelledAt]
  cases written : Text.ofInt value with
  | nil => exact absurd written (ofInt_ne_nil value)
  | cons c after =>
      rcases apart c (by simp [written]) with ⟨quote, bracket, brace⟩
      rw [written, List.cons_append] at noWord number
      simp [readValue, quote, bracket, brace, noWord, number]

theorem readsBack_str (unpaired : text.isUnpaired = true) :
    ReadsBack spelling layout (str text) := by
  refine .of_single rfl rfl fun depth room rounds rest _ enough => ?_
  have longer := length_spelledString spelling text
  rw [spelledAt] at enough ⊢
  have found : readQuoted rounds (spelledString spelling text ++ rest) = .ok (text, rest) :=
    readQuoted_spelled spelling unpaired (by omega) rest
  rw [spelledString, List.cons_append] at found ⊢
  simp only [readValue, beq_self_eq_true, if_true, found]
  rfl

/-- An array that holds a value is read from its first item on. -/
theorem readValue_bracket (blank : space.all isSpace = true) (opens : OpensValue text) :
    readValue room (rounds + 1) (0x5B :: (space ++ text)) =
      if room = 0 then .error (.tooDeep .array) else readItems (room - 1) rounds [] text := by
  have skipped := (skipSpace_append blank text).trans opens.skipSpace_eq
  rcases opens with ⟨c, after, rfl, -, bracket, -⟩
  simp [readValue, skipped, bracket]

/-- An object that holds a field is read from its first key on. -/
theorem readValue_brace (blank : space.all isSpace = true) (opens : OpensValue text) :
    readValue room (rounds + 1) (0x7B :: (space ++ text)) =
      if room = 0 then .error (.tooDeep .object) else readFields (room - 1) rounds [] text := by
  have skipped := (skipSpace_append blank text).trans opens.skipSpace_eq
  rcases opens with ⟨c, after, rfl, -, -, brace, -⟩
  simp [readValue, skipped, brace]

/-- What is opened takes some of the room from its parts. -/
theorem ReadsIf.opened {fits : Prop} {result : Except Fault (Json × Text)}
    (reads : ReadsIf fits value rest result) (room : Nat) (opening : Container) :
    ReadsIf (room ≠ 0 ∧ fits) value rest
      (if room = 0 then .error (.tooDeep opening) else result) := by
  by_cases full : room = 0
  · rw [if_pos full]
    exact .inr ⟨fun within => within.1 full, opening, rfl⟩
  · rw [if_neg full]
    exact reads.of_iff (iff_and_self.mpr fun _ => full)

theorem readsBack_arr (plain : layout.IsBlank) {items : List Json}
    (parts : ∀ item ∈ items, ReadsBack spelling layout item) :
    ReadsBack spelling layout (arr items) := by
  refine .of_succ rfl fun depth room rounds rest _ enough => ?_
  cases items with
  | nil =>
      have empty : readValue room (rounds + 1) (0x5B :: 0x5D :: rest) =
          if room = 0 then .error (.tooDeep .array) else .ok (arr [], rest) := by
        simp [readValue, skipSpace_cons (by decide : isSpace 0x5D = false)]
      have inner : ReadsIf (∀ item ∈ ([] : List Json), item.nesting ≤ room - 1) (arr []) rest
          (.ok (arr [], rest)) :=
        .inl ⟨List.forall_mem_nil _, rfl⟩
      rw [spelledAt]
      exact empty ▸ (inner.opened room .array).of_iff nesting_arr_le_iff.symm
  | cons item items =>
      rcases List.forall_mem_cons.mp parts with ⟨first, others⟩
      rw [spelledAt] at enough ⊢
      simp only [List.length_cons, List.length_append] at enough
      simp only [List.cons_append, List.append_assoc, List.nil_append]
      rw [readValue_bracket (plain.opening _) ((first.opens _).append _)]
      refine ReadsIf.of_iff (ReadsIf.opened ?_ room .array) nesting_arr_le_iff.symm
      exact readItems_spelled plain (plain.opening depth) first others
        (by rw [List.length_append]; omega)

theorem readsBack_obj (plain : layout.IsBlank) {fields : List (Text × Json)}
    (distinct : (fields.map Prod.fst).Nodup)
    (parts : ∀ field ∈ fields, field.1.isUnpaired = true ∧ ReadsBack spelling layout field.2) :
    ReadsBack spelling layout (obj fields) := by
  refine .of_succ rfl fun depth room rounds rest _ enough => ?_
  cases fields with
  | nil =>
      have empty : readValue room (rounds + 1) (0x7B :: 0x7D :: rest) =
          if room = 0 then .error (.tooDeep .object) else .ok (obj [], rest) := by
        simp [readValue, skipSpace_cons (by decide : isSpace 0x7D = false)]
      have inner : ReadsIf (∀ field ∈ ([] : List (Text × Json)), field.2.nesting ≤ room - 1)
          (obj []) rest (.ok (obj [], rest)) :=
        .inl ⟨List.forall_mem_nil _, rfl⟩
      rw [spelledAt]
      exact empty ▸ (inner.opened room .object).of_iff nesting_obj_le_iff.symm
  | cons field fields =>
      rcases List.forall_mem_cons.mp parts with ⟨first, others⟩
      rw [spelledAt] at enough ⊢
      simp only [List.length_cons, List.length_append] at enough
      simp only [List.cons_append, List.append_assoc, List.nil_append]
      rw [readValue_brace (plain.opening _) ((opensValue_spelledString spelling _).append _)]
      refine ReadsIf.of_iff (ReadsIf.opened ?_ room .object) nesting_obj_le_iff.symm
      rw [← ofSettings_of_nodup distinct]
      exact readFields_spelled plain (plain.opening depth) first.1 first.2 others
        (by simp only [List.length_append]; omega)

/-- A legible value without doubles is read back in every such layout. -/
theorem readsBack (plain : layout.IsBlank) (value : Json) (doubleFree : value.isFloatFree = true)
    (legible : value.isLegible = true) : ReadsBack spelling layout value := by
  induction value using forall_of_parts with
  | null => exact readsBack_null
  | bool value => exact readsBack_bool value
  | int value => exact readsBack_int legible
  | float value => exact nomatch doubleFree
  | str text => exact readsBack_str legible
  | arr items parts =>
      rw [isFloatFree_arr] at doubleFree
      rw [isLegible_arr] at legible
      exact readsBack_arr plain fun item member =>
        parts item member (doubleFree item member) (legible item member)
  | obj fields parts =>
      rw [isFloatFree_obj] at doubleFree
      rw [isLegible_obj] at legible
      exact readsBack_obj plain legible.1 fun field member =>
        ⟨(legible.2 field member).1,
          parts field member (doubleFree field member) (legible.2 field member).2⟩

/-- What is read of a legible value without doubles, in every spelling: the value, unless there is
no room for it. -/
theorem readWhole_spelled (spelling : Spelling) (plain : layout.IsBlank)
    (doubleFree : value.isFloatFree = true) (legible : value.isLegible = true) :
    (value.nesting ≤ room ∧ readWhole room (value.spelled spelling layout) = .ok value) ∨
      (¬ value.nesting ≤ room ∧
        ∃ opened, readWhole room (value.spelled spelling layout) = .error (.tooDeep opened)) := by
  have back : ReadsBack spelling layout value := readsBack plain value doubleFree legible
  have opens := back.opens 0
  have reads := back.reads 0 room (2 * (value.spelled spelling layout).length + 2) [] rfl
    (Nat.le_add_right ..)
  rw [List.append_nil] at reads
  rw [spelled] at reads ⊢
  rw [readWhole, opens.skipSpace_eq]
  rcases opens with ⟨c, after, same, -, -, -, mark⟩
  rcases reads with ⟨fits, found⟩ | ⟨unfit, opened, found⟩
  · exact .inl ⟨fits, by rw [found]; simp [same, mark, skipSpace]⟩
  · exact .inr ⟨unfit, opened, by rw [found]; simp [same, mark]⟩

/-- A legible value without doubles is read from its text, in every spelling. -/
theorem read_spelled (spelling : Spelling) (plain : layout.IsBlank)
    (doubleFree : value.isFloatFree = true) (legible : value.isLegible = true)
    (fits : value.nesting ≤ room) : read room (value.spelled spelling layout) = .ok value := by
  rcases readWhole_spelled spelling plain doubleFree legible with
    ⟨-, whole⟩ | ⟨unfit, -⟩
  · rw [read, whole]
    rfl
  · exact absurd fits unfit

/-- Where there is no room for a value, reading its text stops at an array or an object. -/
theorem read_spelled_of_lt (spelling : Spelling) (plain : layout.IsBlank)
    (doubleFree : value.isFloatFree = true) (legible : value.isLegible = true)
    (deep : room < value.nesting) :
    ∃ opened, read room (value.spelled spelling layout) = .error (.tooDeep opened) := by
  rcases readWhole_spelled spelling plain doubleFree legible with
    ⟨fits, -⟩ | ⟨-, opened, stopped⟩
  · exact absurd fits (Nat.not_le_of_lt deep)
  · refine ⟨opened, ?_⟩
    rw [read, stopped]
    rfl

/-- Whether a value is read from a text by every reader that has room for it. -/
def IsReadFrom (text : Text) (value : Json) : Prop :=
  ∀ room, value.nesting ≤ room → read room text = .ok value

/-- A legible value without doubles is read from its written form. -/
theorem isReadFrom_written (plain : layout.IsBlank) (doubleFree : value.isFloatFree = true)
    (legible : value.isLegible = true) : IsReadFrom (value.written layout) value := by
  intro room fits
  rw [written_eq]
  exact read_spelled .escaping plain doubleFree legible fits

end Json

end SocialMigration
