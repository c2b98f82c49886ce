import LiquidationDrill.Proofs.Json.Spelled
import LiquidationDrill.Proofs.Json.Written

/-!
# Texts that spell a value are read

The reader is complete: a text that spells a value is read as this value unless it exceeds a limit, before anything that
continues no number (`Spells.taken`). The reader may stop before white space that belongs to the text, so what is left
is told up to white space (`Taken`). The induction is on the spelling, with a step for numbers, strings, items
(`items_taken`) and members (`members_taken`). Together with soundness, the values of a text within the limits are the
ones that it spells (`read_iff_spells`).
-/

namespace LiquidationDrill.Json

/-- A value is read and the rest is left, unless a limit is exceeded. -/
def Takes {α : Type} (result : Except Fault (α × Text)) (x : α) (rest : Text) : Prop :=
  result = .ok (x, rest) ∨ ∃ limit, result = .error (.beyond limit)

/-- So it is if something else is made of the value. -/
theorem Takes.map {α β : Type} {result : Except Fault (α × Text)} {x : α} {rest : Text} (h : Takes result x rest)
    (f : α → β) : Takes (result.map fun (y, rest) => (f y, rest)) (f x) rest := by
  rcases h with rfl | ⟨limit, rfl⟩
  · exact Or.inl rfl
  · exact Or.inr ⟨limit, rfl⟩

/-- Before anything that continues no number the text is read as the value, and at most white space of it is left. -/
structure Taken (t : Text) (x : Value) : Prop where
  head : ∃ c t', skipSpace t = c :: t' ∧ IsVisible c ∧ c ≠ ']'
  takes : ∀ depth rest, Foreign rest →
    ∃ left, skipSpace left = skipSpace rest ∧ Takes (value depth (skipSpace (t ++ rest))) x left

/-- What does not open is a value without parts. -/
theorem value_eq_scalar {c : CodePoint} (hc : ¬IsOpening c) (depth : Nat) (t : Text) :
    value depth (c :: t) = scalar (c :: t) := by
  simp only [IsOpening, not_or] at hc
  rw [value.eq_def]
  dsimp only
  rw [if_neg hc.1, if_neg hc.2.1, if_neg hc.2.2]

/-- A text is taken if it is from its first visible character on. -/
theorem Taken.of_cons {c : CodePoint} {t : Text} {x : Value} (hc : IsVisible c) (hne : c ≠ ']')
    (h : ∀ depth rest, Foreign rest → Takes (value depth (c :: (t ++ rest))) x rest) : Taken (c :: t) x := by
  refine ⟨⟨c, t, skipSpace_visible hc, hc, hne⟩, fun depth rest hr => ⟨rest, rfl, ?_⟩⟩
  rw [List.cons_append, skipSpace_visible hc]
  exact h depth rest hr

theorem Taken.named {name : Text} {x : Value} (hm : (name, x) ∈ names) : Taken name x := by
  have hhead : ∀ entry ∈ names, ∃ c t, entry.1 = c :: t ∧ IsVisible c ∧ c ≠ ']' ∧ ¬IsOpening c := by
    simp only [names, List.forall_mem_cons]
    refine ⟨⟨'n', _, rfl, ?_⟩, ⟨'t', _, rfl, ?_⟩, ⟨'f', _, rfl, ?_⟩, ⟨'N', _, rfl, ?_⟩, ⟨'I', _, rfl, ?_⟩,
      ⟨'-', _, rfl, ?_⟩, List.forall_mem_nil _⟩
    all_goals exact ⟨by decide, by decide, by simp [IsOpening]⟩
  obtain ⟨c, t, ht, hc, hne, ho⟩ := hhead _ hm
  dsimp only at ht
  rw [ht] at hm ⊢
  refine .of_cons hc hne fun depth rest _ => ?_
  have hn : named? (c :: (t ++ rest)) = some (x, rest) := named?_eq_some.mpr ⟨_, hm, rfl⟩
  rw [value_eq_scalar ho, scalar, hn]
  exact Or.inl rfl

/-- A number is taken, or it is an integer that is too long. -/
theorem SpellsNumber.taken {t : Text} {n : Number} (h : SpellsNumber t n) : Taken t (.number n) := by
  obtain ⟨parts, hparts, hn⟩ := numeral?_complete h
  obtain ⟨used, ht, hne, hu, -⟩ := numeral?_used hparts
  obtain ⟨c, t', rfl⟩ := List.exists_cons_of_ne_nil hne
  rw [List.append_nil] at ht
  subst ht
  have hc := hu c List.mem_cons_self
  obtain ⟨-, hq, ho, hclose⟩ := isPlain_of_isNumeric hc
  refine .of_cons (isVisible_of_isNumeric hc) (not_or.mp hclose).1 fun depth rest hr => ?_
  have hrest := numeral?_append hparts hr
  rw [List.cons_append, List.nil_append] at hrest
  rw [value_eq_scalar (not_or.mpr ⟨hq, ho⟩), scalar, named?_eq_none hrest, hrest]
  rcases hn with hn | ⟨limit, hn⟩
  · exact Or.inl (Result.map_eq_ok.mpr ⟨n, hn, rfl⟩)
  · exact Or.inr ⟨limit, Result.map_eq_error.mpr hn⟩

theorem SpellsString.taken {t s : Text} (h : SpellsString t s) : Taken t (.string s) := by
  obtain ⟨inside, rfl, hs⟩ := h
  refine .of_cons (by decide) (by decide) fun depth rest _ => Or.inl (value_eq_ok.mpr (.string ?_))
  rw [List.append_assoc]
  exact stringBody_complete hs rest

/-- White space around a text is passed over. -/
theorem Taken.spaced {before t after : Text} {x : Value} (hb : IsWhite before) (h : Taken t x) (ha : IsWhite after) :
    Taken (before ++ (t ++ after)) x := by
  have hbefore : skipSpace before = [] := List.dropWhile_eq_nil_iff.mpr (isWhite_iff.mp hb)
  have hskip : skipSpace after = [] := List.dropWhile_eq_nil_iff.mpr (isWhite_iff.mp ha)
  obtain ⟨c, t', ht, hc⟩ := h.head
  refine ⟨⟨c, t' ++ after, ?_, hc⟩, fun depth rest hr => ?_⟩
  · rw [skipSpace_append_of_nil hbefore, skipSpace_append ht]
  have hafter : Foreign (after ++ rest) := by
    cases after with
    | nil => exact hr
    | cons c after =>
      exact fun d hd => Option.some.inj hd ▸ not_isNumeric_of_isSpace (isWhite_iff.mp ha c List.mem_cons_self)
  obtain ⟨left, hleft, htakes⟩ := h.takes depth (after ++ rest) hafter
  refine ⟨left, hleft.trans (skipSpace_append_of_nil hskip rest), ?_⟩
  rw [List.append_assoc, List.append_assoc, skipSpace_append_of_nil hbefore]
  exact htakes

/-! ### Items and members -/

section Steps

variable {readValue : Text → Except Fault (Value × Text)} {fuel : Nat} {s t after rest : Text} {x : Value}
  (hx : Takes (readValue t) x after)
include hx

/-- The last item is taken with the closing bracket. -/
theorem items_takes_last (hn : skipSpace after = .ofChar ']' :: rest) :
    Takes (items readValue (fuel + 1) t) [x] rest := by
  rcases hx with hx | ⟨limit, hx⟩
  · exact Or.inl (items_eq_ok.mpr ⟨x, after, hx, Or.inl ⟨hn, rfl⟩⟩)
  · exact Or.inr ⟨limit, by rw [items, hx]; rfl⟩

/-- Any other item is taken with the comma. -/
theorem items_takes_more {next : Text} {xs : List Value} (hn : skipSpace after = .ofChar ',' :: next)
    (hxs : Takes (items readValue fuel (skipSpace next)) xs rest) :
    Takes (items readValue (fuel + 1) t) (x :: xs) rest := by
  rcases hx with hx | ⟨limit, hx⟩
  · rcases hxs with hxs | ⟨limit, hxs⟩
    · exact Or.inl (items_eq_ok.mpr ⟨x, after, hx, Or.inr ⟨next, xs, hn, hxs, rfl⟩⟩)
    · refine Or.inr ⟨limit, Result.bind_eq_error.mpr (Or.inr ⟨(x, after), hx, ?_⟩)⟩
      dsimp only
      rw [hn]
      dsimp only
      rw [if_neg (by decide), if_pos rfl, hxs]
      rfl
  · exact Or.inr ⟨limit, by rw [items, hx]; rfl⟩

variable {name : Text} (hm : memberName s = .ok (name, t))
include hm

/-- So are the last member, with the closing brace, -/
theorem members_takes_last (hn : skipSpace after = .ofChar '\x7d' :: rest) :
    Takes (members readValue (fuel + 1) s) [(name, x)] rest := by
  rcases hx with hx | ⟨limit, hx⟩
  · exact Or.inl (members_eq_ok.mpr ⟨name, t, x, after, hm, hx, Or.inl ⟨hn, rfl⟩⟩)
  · refine Or.inr ⟨limit, Result.bind_eq_error.mpr (Or.inr ⟨(name, t), hm, ?_⟩)⟩
    exact Result.bind_eq_error.mpr (Or.inl hx)

/-- and any other member. -/
theorem members_takes_more {next : Text} {xs : List (Text × Value)} (hn : skipSpace after = .ofChar ',' :: next)
    (hxs : Takes (members readValue fuel (skipSpace next)) xs rest) :
    Takes (members readValue (fuel + 1) s) ((name, x) :: xs) rest := by
  rcases hx with hx | ⟨limit, hx⟩
  · rcases hxs with hxs | ⟨limit, hxs⟩
    · exact Or.inl (members_eq_ok.mpr ⟨name, t, x, after, hm, hx, Or.inr ⟨next, xs, hn, hxs, rfl⟩⟩)
    · refine Or.inr ⟨limit, Result.bind_eq_error.mpr (Or.inr ⟨(name, t), hm, ?_⟩)⟩
      refine Result.bind_eq_error.mpr (Or.inr ⟨(x, after), hx, ?_⟩)
      dsimp only
      rw [hn]
      dsimp only
      rw [if_neg (by decide), if_pos rfl, hxs]
      rfl
  · refine Or.inr ⟨limit, Result.bind_eq_error.mpr (Or.inr ⟨(name, t), hm, ?_⟩)⟩
    exact Result.bind_eq_error.mpr (Or.inl hx)

end Steps

/-- Nothing that stands between values goes on with a number. -/
theorem foreign_cons {c : CodePoint} (hc : ¬IsNumeric c) (t : Text) : Foreign (c :: t) :=
  fun _ hd => Option.some.inj hd ▸ hc

/-- Texts are joined with at least one code point for each but the first. -/
theorem length_le_join (between : CodePoint) (ts : List Text) : ts.length ≤ (Text.join [between] ts).length + 1 := by
  induction ts with
  | nil => exact Nat.zero_le _
  | cons t ts ih =>
    cases ts with
    | nil => exact Nat.le_add_left 1 _
    | cons u ts =>
      rw [join_cons (List.cons_ne_nil u ts)]
      simp only [List.length_append, List.length_cons, List.length_nil] at ih ⊢
      omega

/-- **Items that are taken one by one are taken together.** -/
theorem items_taken {spelled : List (Text × Value)} (hne : spelled ≠ [])
    (hall : ∀ item ∈ spelled, Taken item.1 item.2) (depth : Nat) {fuel : Nat} (hf : spelled.length ≤ fuel)
    (rest : Text) :
    Takes (items (value depth) fuel (skipSpace (Text.join [','] (spelled.map Prod.fst) ++ .ofChar ']' :: rest)))
      (spelled.map Prod.snd) rest := by
  induction spelled generalizing fuel with
  | nil => exact absurd rfl hne
  | cons item spelled ih =>
    obtain ⟨fuel, rfl⟩ := Nat.exists_eq_add_one_of_ne_zero (Nat.ne_zero_of_lt hf)
    obtain ⟨hitem, hall⟩ := List.forall_mem_cons.mp hall
    cases spelled with
    | nil =>
      obtain ⟨left, hleft, ht⟩ := hitem.takes depth (.ofChar ']' :: rest) (foreign_cons (by decide) _)
      exact items_takes_last ht (hleft.trans (skipSpace_visible (by decide)))
    | cons next spelled =>
      have hnext := ih (List.cons_ne_nil _ _) hall (Nat.le_of_succ_le_succ hf)
      have htext : Text.join [','] ((item :: next :: spelled).map Prod.fst) ++ .ofChar ']' :: rest =
          item.1 ++ .ofChar ',' :: (Text.join [','] ((next :: spelled).map Prod.fst) ++ .ofChar ']' :: rest) := by
        rw [List.map_cons, join_cons (by simp)]
        simp
      obtain ⟨left, hleft, ht⟩ := hitem.takes depth _ (foreign_cons (c := ',') (by decide) _)
      rw [htext]
      exact items_takes_more ht (hleft.trans (skipSpace_visible (by decide))) hnext

/-- A label with its colon is read as the name. -/
theorem Member.IsLabelled.memberName_eq {member : Member} (h : member.IsLabelled) (more : Text) :
    ∃ next, skipSpace (member.text ++ more) = .ofChar '"' :: next ∧
      memberName (.ofChar '"' :: next) = .ok (member.name, skipSpace (member.body ++ more)) := by
  obtain ⟨before, string, after, hl, hb, ⟨inside, rfl, hs⟩, ha⟩ := h
  have htext : member.text ++ more =
      before ++ .ofChar '"' :: (inside ++ .ofChar '"' :: (after ++ .ofChar ':' :: (member.body ++ more))) := by
    simp [Member.text, hl]
  rw [htext]
  refine ⟨_, skipSpace_space (isWhite_iff.mp hb) (by decide), memberName_eq_ok.mpr ⟨_, _, _, rfl,
    stringBody_complete hs _, skipSpace_space (isWhite_iff.mp ha) (by decide), rfl⟩⟩

/-- **So are members.** -/
theorem members_taken {spelled : List Member} (hne : spelled ≠ []) (hlabels : ∀ member ∈ spelled, member.IsLabelled)
    (hall : ∀ member ∈ spelled, Taken member.body member.value) (depth : Nat) {fuel : Nat}
    (hf : spelled.length ≤ fuel) (rest : Text) :
    Takes (members (value depth) fuel
        (skipSpace (Text.join [','] (spelled.map Member.text) ++ .ofChar '\x7d' :: rest)))
      (spelled.map Member.named) rest := by
  induction spelled generalizing fuel with
  | nil => exact absurd rfl hne
  | cons member spelled ih =>
    obtain ⟨fuel, rfl⟩ := Nat.exists_eq_add_one_of_ne_zero (Nat.ne_zero_of_lt hf)
    obtain ⟨hlabel, hlabels⟩ := List.forall_mem_cons.mp hlabels
    obtain ⟨hmember, hall⟩ := List.forall_mem_cons.mp hall
    cases spelled with
    | nil =>
      obtain ⟨next, hs, hname⟩ := hlabel.memberName_eq (.ofChar '\x7d' :: rest)
      obtain ⟨left, hleft, ht⟩ := hmember.takes depth (.ofChar '\x7d' :: rest) (foreign_cons (by decide) _)
      rw [List.map_singleton, Text.join, hs]
      exact members_takes_last ht hname (hleft.trans (skipSpace_visible (by decide)))
    | cons other spelled =>
      have hnext := ih (List.cons_ne_nil _ _) hlabels hall (Nat.le_of_succ_le_succ hf)
      have htext : Text.join [','] ((member :: other :: spelled).map Member.text) ++ .ofChar '\x7d' :: rest =
          member.text ++ .ofChar ',' ::
            (Text.join [','] ((other :: spelled).map Member.text) ++ .ofChar '\x7d' :: rest) := by
        rw [List.map_cons, join_cons (by simp)]
        simp
      obtain ⟨next, hs, hname⟩ := hlabel.memberName_eq (.ofChar ',' :: (Text.join [',']
        ((other :: spelled).map Member.text) ++ .ofChar '\x7d' :: rest))
      obtain ⟨left, hleft, ht⟩ := hmember.takes depth _ (foreign_cons (c := ',') (by decide) _)
      rw [htext, hs]
      exact members_takes_more ht hname (hleft.trans (skipSpace_visible (by decide))) hnext

/-! ### Values -/

/-- Where no level is left there is no array, -/
theorem value_zero_array (t : Text) : value 0 ('[' :: t) = .error (.beyond .arrayTooDeep) := by
  rw [value.eq_def]
  dsimp only
  rw [if_neg (by decide), if_pos rfl]

/-- and no object. -/
theorem value_zero_object (t : Text) : value 0 ('\x7b' :: t) = .error (.beyond .objectTooDeep) := by
  rw [value.eq_def]
  dsimp only
  rw [if_neg (by decide), if_neg (by decide), if_pos rfl]

section Brackets

variable {t next rest : Text} {d : CodePoint} (hd : skipSpace t = d :: next) (depth : Nat)
include hd

/-- An array is taken if its items are. -/
theorem array_takes {xs : List Value} (hne : d ≠ ']')
    (hi : ∀ depth, Takes (items (value depth) t.length (d :: next)) xs rest) :
    Takes (value depth ('[' :: t)) (.array xs) rest := by
  cases depth with
  | zero => exact Or.inr ⟨_, value_zero_array t⟩
  | succ depth =>
    rw [value.eq_def]
    dsimp only
    rw [if_neg (by decide), if_pos rfl, hd]
    dsimp only
    rw [if_neg hne]
    exact (hi depth).map Value.array

/-- An object is taken if its members are. -/
theorem object_takes {xs : List (Text × Value)} (hne : d ≠ '\x7d')
    (hi : ∀ depth, Takes (members (value depth) t.length (d :: next)) xs rest) :
    Takes (value depth ('\x7b' :: t)) (.object (settled xs)) rest := by
  cases depth with
  | zero => exact Or.inr ⟨_, value_zero_object t⟩
  | succ depth =>
    rw [value.eq_def, ← ofWritten_eq_settled]
    dsimp only
    rw [if_neg (by decide), if_neg (by decide), if_pos rfl, hd]
    dsimp only
    rw [if_neg hne]
    exact (hi depth).map fun xs => Value.object (Value.Members.ofWritten xs)

end Brackets

/-- **A text that spells a value is taken**: it is read as the value, or a limit is exceeded. -/
theorem Spells.taken {t : Text} {x : Value} (h : Spells t x) : Taken t x := by
  induction h with
  | spaced hb _ ha ih => exact .spaced hb ih ha
  | null | true | false | nan | infinity | negativeInfinity => exact .named (by simp [names])
  | number hn => exact hn.taken
  | string hs => exact hs.taken
  | @emptyArray space hspace =>
    refine .of_cons (by decide) (by decide) fun depth rest _ => ?_
    rw [List.append_assoc]
    cases depth with
    | zero => exact Or.inr ⟨_, value_zero_array _⟩
    | succ depth =>
      exact Or.inl (value_eq_ok.mpr (.emptyArray (skipSpace_space (isWhite_iff.mp hspace) (by decide))))
  | @array spelled hne _ ih =>
    refine .of_cons (by decide) (by decide) fun depth rest _ => ?_
    rw [List.append_assoc, List.singleton_append]
    obtain ⟨item, others, rfl⟩ := List.exists_cons_of_ne_nil hne
    have hlen := length_le_join ',' ((item :: others).map Prod.fst)
    -- the reader sees the beginning of the first item after the bracket
    obtain ⟨c, t', ht, -, hclose⟩ := (ih item List.mem_cons_self).head
    obtain ⟨more, hmore⟩ := exists_join_cons [','] item.1 (others.map Prod.fst)
    have hd : skipSpace (Text.join [','] ((item :: others).map Prod.fst) ++ .ofChar ']' :: rest) =
        c :: (t' ++ (more ++ .ofChar ']' :: rest)) := by
      rw [List.map_cons, hmore, List.append_assoc, skipSpace_append ht]
    refine array_takes hd depth hclose fun depth => hd ▸ items_taken hne ih depth ?_ rest
    simp only [List.length_append, List.length_cons, List.length_map] at hlen ⊢
    omega
  | @emptyObject space hspace =>
    refine .of_cons (by decide) (by decide) fun depth rest _ => ?_
    rw [List.append_assoc]
    cases depth with
    | zero => exact Or.inr ⟨_, value_zero_object _⟩
    | succ depth =>
      exact Or.inl (value_eq_ok.mpr (.emptyObject (skipSpace_space (isWhite_iff.mp hspace) (by decide))))
  | @object spelled hne hlabels _ ih =>
    refine .of_cons (by decide) (by decide) fun depth rest _ => ?_
    rw [List.append_assoc, List.singleton_append]
    obtain ⟨member, others, rfl⟩ := List.exists_cons_of_ne_nil hne
    have hlen := length_le_join ',' ((member :: others).map Member.text)
    obtain ⟨more, hmore⟩ := exists_join_cons [','] member.text (others.map Member.text)
    obtain ⟨next, hnext, -⟩ := (hlabels member List.mem_cons_self).memberName_eq (more ++ .ofChar '\x7d' :: rest)
    have hd : skipSpace (Text.join [','] ((member :: others).map Member.text) ++ .ofChar '\x7d' :: rest) =
        .ofChar '"' :: next := by
      rw [List.map_cons, hmore, List.append_assoc, hnext]
    refine object_takes hd depth (by decide) fun depth => hd ▸ members_taken hne hlabels ih depth ?_ rest
    simp only [List.length_append, List.length_cons, List.length_map] at hlen ⊢
    omega

/-- **A text that spells a value is read as the value**, or it exceeds a limit. -/
theorem read_complete {t : Text} {x : Value} (h : Spells t x) :
    read t = .ok x ∨ ∃ limit, read t = .error (.beyond limit) := by
  obtain ⟨c, t', ht, hvisible, -⟩ := h.taken.head
  have hb : t.head? ≠ some byteOrderMark := by
    intro hb
    obtain ⟨t, rfl⟩ := List.head?_eq_some_iff.mp hb
    rw [skipSpace, List.dropWhile_cons_of_neg (by decide)] at ht
    obtain ⟨rfl, -⟩ := List.cons.inj ht
    exact absurd hvisible (by decide)
  obtain ⟨left, hleft, htakes⟩ := h.taken.takes maxDepth [] fun _ hc => by cases hc
  rw [List.append_nil] at htakes
  rcases htakes with hv | ⟨limit, hv⟩
  · exact Or.inl (read_eq_ok.mpr ⟨hb, left, hv, hleft⟩)
  · refine Or.inr ⟨limit, ?_⟩
    rw [read, if_neg hb, hv]
    rfl

/-- **Within the limits, the values that are read are those that are spelled.** -/
theorem read_iff_spells {t : Text} (ht : ∀ limit, read t ≠ .error (.beyond limit)) {x : Value} :
    read t = .ok x ↔ Spells t x := by
  refine ⟨read_sound, fun h => ?_⟩
  rcases read_complete h with hr | ⟨limit, hl⟩
  · exact hr
  · exact absurd hl (ht limit)

end LiquidationDrill.Json
