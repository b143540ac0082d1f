import EquipmentControl.Protocol.KeyValues
import EquipmentControl.Protocol.ParseBuffer

/-!
# The grammar of a line

Which lines `line_parse` accepts, and what it makes of them: a line of 1 to 510 bytes whose first
two tokens are a role and a type (`InGrammar`), with each field read from the last of the further
tokens that has its key (`ReadFrom`).

So two lines with the same last values have the same message. A token without `=` or with an
unknown key does not matter, and neither does the order of the tokens, as long as those of one key
keep theirs (`KeepsKeyOrder`). This is about the tokens that are left once CRs and LFs at the end
are stripped; in a line without others it does not matter where a token is put (`PlainLine`).
-/

set_option autoImplicit false

namespace EquipmentControl

open TokenText

def roleNames : List Bytes := ["REQ", "RESP", "EVT"].map ascii

def typeNames : List Bytes :=
  ["PING", "REGISTER", "START", "STOP", "STATUS", "RESET", "FAULT", "TELEMETRY", "ALARM",
    "ERROR"].map ascii

/-- **The lines of the protocol**: their length, and the tokens they begin with. -/
structure InGrammar (line : Bytes) : Prop where
  nonempty : 1 ≤ line.length
  short : line.length ≤ 510
  head : ∃ role type toks, tokens isBlank (rstripCrlf line) = role :: type :: toks ∧
    role ∈ roleNames ∧ type ∈ typeNames

/-- A token has a key: what comes before its first `=`. -/
def hasKey (key tok : Bytes) : Bool := decide (61 ∈ tok ∧ tok.takeWhile (· ≠ 61) = key)

/-- A token that no field is read from. -/
def Ignored (tok : Bytes) : Prop := ∀ key ∈ knownKeys, hasKey key tok = false

/-- The tokens of each key come in the same order. -/
def KeepsKeyOrder (toks others : List Bytes) : Prop :=
  ∀ key, toks.filter (hasKey key) = others.filter (hasKey key)

/-- A line with certain tokens whose only CRs and LFs are at its end, of at most 510 bytes. -/
structure PlainLine (line : Bytes) (toks : List Bytes) : Prop where
  nulFree : 0 ∉ line
  short : line.length ≤ 510
  split : ∃ body ending, line = body ++ ending ∧ (∀ b ∈ body, isCrlf b = false) ∧
    (∀ b ∈ ending, isCrlf b = true) ∧ tokens isBlank body = toks

theorem roleFrom_ne_unknown {s : Bytes} : roleFrom s ≠ .unknown ↔ s ∈ roleNames := by
  simp only [roleNames, List.map_cons, List.map_nil, List.mem_cons, List.not_mem_nil, or_false]
  constructor
  · intro known
    by_contra absent
    simp only [not_or] at absent
    exact known (by simp only [roleFrom, absent, if_false])
  · rintro (rfl | rfl | rfl) <;> decide

theorem typeFrom_ne_unknown {s : Bytes} : typeFrom s ≠ .unknown ↔ s ∈ typeNames := by
  simp only [typeNames, List.map_cons, List.map_nil, List.mem_cons, List.not_mem_nil, or_false]
  constructor
  · intro known
    by_contra absent
    simp only [not_or] at absent
    exact known (by simp only [typeFrom, absent, if_false])
  · rintro (rfl | rfl | rfl | rfl | rfl | rfl | rfl | rfl | rfl | rfl) <;> decide

/-- Only the tokens with a key decide its last value. -/
theorem lastValue_filter (key : Bytes) (toks : List Bytes) :
    lastValue key (toks.filter (hasKey key)) = lastValue key toks := by
  induction toks using List.reverseRecOn with
  | nil => rfl
  | append_singleton toks tok ih =>
      rw [List.filter_append, lastValue_concat, tokenValue]
      by_cases has : 61 ∈ tok ∧ tok.takeWhile (· ≠ 61) = key
      · rw [List.filter_cons_of_pos (by simpa [hasKey] using has), List.filter_nil,
          lastValue_concat, tokenValue, if_pos has]
        rfl
      · rw [List.filter_cons_of_neg (by simpa [hasKey] using has), List.filter_nil,
          List.append_nil, if_neg has, ih]
        rfl

/-- An ignored token changes no last value. -/
theorem Ignored.filter {tok : Bytes} (ignored : Ignored tok) {key : Bytes} (known : key ∈ knownKeys)
    (before after : List Bytes) :
    (before ++ tok :: after).filter (hasKey key) = (before ++ after).filter (hasKey key) := by
  rw [List.filter_append, List.filter_cons_of_neg (by rw [ignored key known]; decide),
    List.filter_append]

/-- A token without `=`, or with a key that is not known, is ignored. -/
theorem ignored_iff (tok : Bytes) :
    Ignored tok ↔ 61 ∉ tok ∨ tok.takeWhile (· ≠ 61) ∉ knownKeys := by
  simp only [Ignored, hasKey, decide_eq_false_iff_not, not_and]
  constructor
  · intro ignored
    by_cases hasEq : 61 ∈ tok
    · exact .inr fun known => ignored _ known hasEq rfl
    · exact .inl hasEq
  · rintro (noEq | unknown) key known hasEq
    · exact absurd hasEq noEq
    · exact fun same => unknown (same ▸ known)

/-- Tokens with pairwise different keys may come in any order. -/
theorem keepsKeyOrder_of_distinct {toks others : List Bytes} (permuted : toks.Perm others)
    (distinct : toks.Pairwise fun first second => ∀ key, ¬(hasKey key first ∧ hasKey key second)) :
    KeepsKeyOrder toks others := by
  intro key
  have same := permuted.filter (hasKey key)
  have apart := distinct.filter (hasKey key)
  cases found : toks.filter (hasKey key) with
  | nil =>
      rw [found] at same
      exact (List.nil_perm.mp same).symm
  | cons first rest =>
  cases rest with
  | nil =>
      rw [found] at same
      exact List.singleton_perm.mp same
  | cons second rest =>
      have hasBoth : ∀ tok ∈ first :: second :: rest, hasKey key tok = true := by
        intro tok member
        exact List.of_mem_filter (found ▸ member)
      rw [found] at apart
      exact absurd ⟨hasBoth first (by simp), hasBoth second (by simp)⟩
        (List.rel_of_pairwise_cons apart List.mem_cons_self key)

/-- CRs and LFs at the end are stripped, and nothing else. -/
theorem rstripCrlf_ending {body ending : Bytes} (others : ∀ b ∈ body, isCrlf b = false)
    (ends : ∀ b ∈ ending, isCrlf b = true) : rstripCrlf (body ++ ending) = body := by
  have nothing : rstripCrlf ending = [] := List.rdropWhile_eq_nil_iff.mpr ends
  by_cases someBody : body = []
  · rw [someBody, List.nil_append, nothing]
  · rw [rstripCrlf_append someBody (others _ (List.getLast_mem someBody)), nothing, List.append_nil]

theorem PlainLine.tokens {line : Bytes} {toks : List Bytes} (plain : PlainLine line toks) :
    tokens isBlank (rstripCrlf line) = toks := by
  obtain ⟨body, ending, rfl, others, ends, split⟩ := plain.split
  rw [rstripCrlf_ending others ends, split]

section Codec

variable {δ : Type} [CDouble δ]

/-- A message with its role and type, and each field from the last token that has its key: the
numbers as `strtoul`, `strtol` and `strtod` convert them, cut to the field, the texts cut to
their arrays. -/
structure ReadFrom (role type : Bytes) (toks : List Bytes) (m : Message δ) : Prop where
  role : m.role = roleFrom role
  type : m.type = typeFrom type
  dev : m.dev = (lastValue (ascii "dev") toks).map fun val => UInt32.ofNat (strtoul val)
  seq : m.seq = (lastValue (ascii "seq") toks).map fun val => UInt32.ofNat (strtoul val)
  ok : m.ok = (lastValue (ascii "ok") toks).map fun val => Int32.ofInt (strtol val)
  code : m.code = (lastValue (ascii "code") toks).map fun val => Int32.ofInt (strtol val)
  state : m.state = (lastValue (ascii "state") toks).map (strncpy 31)
  msg : m.msg = (lastValue (ascii "msg") toks).map (strncpy 127)
  temp : m.temp = (lastValue (ascii "temp") toks).map CDouble.strtod
  pressure : m.pressure = (lastValue (ascii "pressure") toks).map CDouble.strtod
  flow : m.flow = (lastValue (ascii "flow") toks).map CDouble.strtod

/-- Tokens make a message when they begin with a role and a type. -/
theorem messageOf_isSome {toks : List Bytes} :
    (messageOf toks : Option (Message δ)).isSome ↔
      ∃ role type rest, toks = role :: type :: rest ∧ role ∈ roleNames ∧ type ∈ typeNames := by
  constructor
  · intro accepted
    match toks, accepted with
    | role :: type :: rest, accepted =>
      rw [messageOf] at accepted
      split at accepted
      · cases accepted
      · rename_i known
        obtain ⟨knownRole, knownType⟩ := not_or.mp known
        exact ⟨role, type, rest, rfl, roleFrom_ne_unknown.mp knownRole,
          typeFrom_ne_unknown.mp knownType⟩
  · rintro ⟨role, type, rest, rfl, knownRole, knownType⟩
    rw [messageOf, if_neg (not_or.mpr ⟨roleFrom_ne_unknown.mpr knownRole,
      typeFrom_ne_unknown.mpr knownType⟩)]
    rfl

/-- **The message of a list of tokens** is read from their last values. -/
theorem messageOf_readFrom {role type : Bytes} {toks : List Bytes} {m : Message δ}
    (message : messageOf (role :: type :: toks) = some m) : ReadFrom role type toks m := by
  have last : ∀ {τ : Type} {key : Bytes} {field : Message δ → Option τ} {read : Bytes → τ},
      (∀ m other val,
        field (applyKey m other val) = if other = key then some (read val) else field m) →
      field { role := roleFrom role, type := typeFrom type } = none →
      field (toks.foldl applyToken { role := roleFrom role, type := typeFrom type }) =
        (lastValue key toks).map read := by
    intro τ key field read step absent
    rw [foldl_applyToken_field step, absent, Option.or_none]
  rw [messageOf] at message
  split at message
  · cases message
  cases message
  exact {
    role := (foldl_applyToken_head _ toks).1
    type := (foldl_applyToken_head _ toks).2
    dev := last (fun m key val => (applyKey_step m key val).dev) rfl
    seq := last (fun m key val => (applyKey_step m key val).seq) rfl
    ok := last (fun m key val => (applyKey_step m key val).ok) rfl
    code := last (fun m key val => (applyKey_step m key val).code) rfl
    state := last (fun m key val => (applyKey_step m key val).state) rfl
    msg := last (fun m key val => (applyKey_step m key val).msg) rfl
    temp := last (fun m key val => (applyKey_step m key val).temp) rfl
    pressure := last (fun m key val => (applyKey_step m key val).pressure) rfl
    flow := last (fun m key val => (applyKey_step m key val).flow) rfl }

/-- The last values and the words at the beginning decide the message. -/
theorem ReadFrom.unique {role type : Bytes} {toks others : List Bytes} {m m' : Message δ}
    (one : ReadFrom role type toks m) (two : ReadFrom role type others m')
    (same : ∀ key ∈ knownKeys, toks.filter (hasKey key) = others.filter (hasKey key)) : m = m' := by
  have last : ∀ key ∈ knownKeys, lastValue key toks = lastValue key others := by
    intro key known
    rw [← lastValue_filter, same key known, lastValue_filter]
  apply Message.ext
  · rw [one.role, two.role]
  · rw [one.type, two.type]
  · rw [one.dev, two.dev, last _ (by decide)]
  · rw [one.seq, two.seq, last _ (by decide)]
  · rw [one.ok, two.ok, last _ (by decide)]
  · rw [one.code, two.code, last _ (by decide)]
  · rw [one.state, two.state, last _ (by decide)]
  · rw [one.msg, two.msg, last _ (by decide)]
  · rw [one.temp, two.temp, last _ (by decide)]
  · rw [one.pressure, two.pressure, last _ (by decide)]
  · rw [one.flow, two.flow, last _ (by decide)]

/-- Tokens that agree on the known keys make one message. -/
theorem messageOf_congr (role type : Bytes) {toks others : List Bytes}
    (same : ∀ key ∈ knownKeys, toks.filter (hasKey key) = others.filter (hasKey key)) :
    (messageOf (role :: type :: toks) : Option (Message δ)) =
      messageOf (role :: type :: others) := by
  by_cases known : roleFrom role = .unknown ∨ typeFrom type = .unknown
  · rw [messageOf, messageOf, if_pos known, if_pos known]
  · have readable : ∀ toks, ∃ m, (messageOf (role :: type :: toks) : Option (Message δ)) = some m :=
      fun _ => ⟨_, if_neg known⟩
    obtain ⟨m, one⟩ := readable toks
    obtain ⟨m', two⟩ := readable others
    rw [one, two, (messageOf_readFrom one).unique (messageOf_readFrom two) same]

/-- A line without CRs and LFs but at its end has the message of its tokens. -/
theorem PlainLine.message {line tok : Bytes} {toks : List Bytes}
    (plain : PlainLine line (tok :: toks)) (scratch : Bytes) :
    (lineParseBuffer scratch line : Option (Message δ)) = messageOf (tok :: toks) := by
  have length_pos : line.length ≠ 0 := by
    intro empty
    have split := plain.tokens
    rw [List.eq_nil_of_length_eq_zero empty] at split
    cases split
  have := plain.short
  rw [lineParseBuffer_eq, lineParse_eq, cString_of_not_mem plain.nulFree, if_neg (by omega),
    plain.tokens]

/-- **The grammar of `line_parse`.** It accepts a line, as the C string it is, exactly when it is in
the grammar, and reads each field from the last token with its key. For lines whose only CRs and
LFs are at the end, an ignored token may be put in anywhere after the type, and the tokens may be
permuted as long as those of each key keep their order. -/
theorem line_grammar (scratch : Bytes) :
    (∀ line : Bytes, 0 ∉ line →
      ((lineParseBuffer scratch line : Option (Message δ)).isSome ↔ InGrammar line)) ∧
    (∀ (line : Bytes) (m : Message δ), 0 ∉ line → lineParseBuffer scratch line = some m →
      ∃ role type toks, tokens isBlank (rstripCrlf line) = role :: type :: toks ∧
        ReadFrom role type toks m) ∧
    (∀ (first second role type tok : Bytes) (before after : List Bytes),
      61 ∉ tok ∨ tok.takeWhile (· ≠ 61) ∉ knownKeys →
      PlainLine first (role :: type :: (before ++ after)) →
      PlainLine second (role :: type :: (before ++ tok :: after)) →
      (lineParseBuffer scratch first : Option (Message δ)) = lineParseBuffer scratch second) ∧
    (∀ (first second role type : Bytes) (toks others : List Bytes), KeepsKeyOrder toks others →
      PlainLine first (role :: type :: toks) → PlainLine second (role :: type :: others) →
      (lineParseBuffer scratch first : Option (Message δ)) = lineParseBuffer scratch second) := by
  refine ⟨fun line nulFree => ?_, fun line m nulFree parsed => ?_, ?_, ?_⟩
  · rw [lineParseBuffer_eq, lineParse_eq, cString_of_not_mem nulFree]
    split
    · refine iff_of_false Bool.false_ne_true fun inGrammar => ?_
      have := inGrammar.nonempty
      have := inGrammar.short
      omega
    · rw [messageOf_isSome]
      exact ⟨fun head => ⟨by omega, by omega, head⟩, InGrammar.head⟩
  · rw [lineParseBuffer_eq, lineParse_eq, cString_of_not_mem nulFree] at parsed
    split at parsed
    · cases parsed
    · obtain ⟨role, type, toks, split, _⟩ := messageOf_isSome.mp (Option.isSome_of_eq_some parsed)
      rw [split] at parsed
      exact ⟨role, type, toks, split, messageOf_readFrom parsed⟩
  · intro first second role type tok before after ignored one two
    rw [one.message, two.message]
    exact messageOf_congr role type fun key known =>
      (((ignored_iff tok).mpr ignored).filter known before after).symm
  · intro first second role type toks others kept one two
    rw [one.message, two.message]
    exact messageOf_congr role type fun key _ => kept key

end Codec

theorem plainLine_append {body ending : Bytes}
    (plain : body.all (fun b => decide (b ≠ 0) && !isCrlf b) = true)
    (ends : ending.all isCrlf = true) (short : (body ++ ending).length ≤ 510) :
    PlainLine (body ++ ending) (tokens isBlank body) where
  nulFree member := by
    rcases List.mem_append.mp member with inBody | inEnding
    · exact absurd (List.all_eq_true.mp plain 0 inBody) (by decide)
    · exact absurd (List.all_eq_true.mp ends 0 inEnding) (by decide)
  short := short
  split := by
    refine ⟨body, ending, rfl, fun b member => ?_, List.all_eq_true.mp ends, rfl⟩
    have clean := List.all_eq_true.mp plain b member
    rw [Bool.and_eq_true, Bool.not_eq_true'] at clean
    exact clean.2

/-- Two keys in the other order, between other blanks and in front of another end. -/
theorem line_grammar_reordered :
    (lineParseBuffer [] (ascii "REQ STATUS dev=1 seq=7\n") : Option (Message ℚ)) =
      lineParseBuffer [] (ascii "\tREQ  STATUS seq=7\tdev=1 \r\n") := by
  have one : PlainLine (ascii "REQ STATUS dev=1 seq=7" ++ ascii "\n")
      [ascii "REQ", ascii "STATUS", ascii "dev=1", ascii "seq=7"] :=
    plainLine_append rfl rfl (by decide)
  have two : PlainLine (ascii "\tREQ  STATUS seq=7\tdev=1 " ++ ascii "\r\n")
      [ascii "REQ", ascii "STATUS", ascii "seq=7", ascii "dev=1"] :=
    plainLine_append rfl rfl (by decide)
  have kept : KeepsKeyOrder [ascii "dev=1", ascii "seq=7"] [ascii "seq=7", ascii "dev=1"] := by
    refine keepsKeyOrder_of_distinct (List.Perm.swap ..) ?_
    rw [List.pairwise_pair]
    rintro key ⟨dev, seq⟩
    have same := (of_decide_eq_true dev).2.trans (of_decide_eq_true seq).2.symm
    exact absurd same (by decide)
  exact (line_grammar []).2.2.2 _ _ _ _ _ _ kept one two

end EquipmentControl
