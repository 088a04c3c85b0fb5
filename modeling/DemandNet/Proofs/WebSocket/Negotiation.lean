import DemandNet.Proofs.Http.Values
import DemandNet.Proofs.Text.Split
import DemandNet.WebSocket.Handshake

/-!
# The Decision about a Handshake

When a handshake is accepted, what is agreed then, and which check refuses it otherwise.

Four things are asked of a request, in this order: that it asks for the upgrade, that it
speaks the version, that it brings a key, and that the two sides have a subprotocol in
common if both care. Each is said of the headers here, without the functions that check
it. A list header is the list of what stands between the commas of its readable lines,
whatever the lines and the blanks, and an offer is an element that is not empty.

Either one of the checks is the first to fail, or all hold; `Decision` has a case for
each. The subprotocol is the earliest offer that is supported, so it has offers before it
that are not.

## Main definitions

* `Lists`: A list header has this element.
* `AsksForUpgrade`, `SpeaksVersion`, `BringsKey`, `HasCommon`: What is asked of a request.
* `offers`, `Supports`: What the client offers, and what the server supports.
* `Decision`: The decision, one case for each check and two for what is agreed.

## Theorems

* `mem_headerTokens_iff`: The elements of a list header.
* `mem_offers_iff`: What is offered.
* `negotiate_decides`: Every request is decided.
* `readable_of_negotiate`: What is agreed is readable.
* `negotiate_first_failure_decides`: When it is accepted, and what is agreed or refused.
-/

namespace DemandNet

namespace WebSocket

open Http

/-! ### What the headers say -/

/-- A readable line of this header has this element between its commas, with or without
    blanks around it. -/
def Lists (h : Headers) (name : String) (element : List Char) : Prop :=
  ∃ line ∈ h.texts name, ∃ piece, Text.IsPiece ',' piece line.toList ∧ Text.trim piece = element

/-- A list header has an element that is this word, whatever the case of its letters. -/
def ListsWord (h : Headers) (name word : String) : Prop :=
  ∃ element, Lists h name element ∧ Text.lower element = Text.lower word.toList

/-- The request asks for the upgrade. -/
def AsksForUpgrade (h : Headers) : Prop :=
  ListsWord h "upgrade" "websocket" ∧ ListsWord h "connection" "upgrade"

/-- The first version is readable and, without blanks around it, the one that is spoken. -/
def SpeaksVersion (h : Headers) : Prop :=
  ∃ version, h.text? "sec-websocket-version" = some version ∧
    Text.trim version.toList = supportedVersion.toList

/-- The first key is this one, and not empty. -/
def BringsKey (h : Headers) (key : Bytes) : Prop :=
  h.get? "sec-websocket-key" = some key ∧ key ≠ []

/-- What the client offers, in the order of the headers. -/
def offers (h : Headers) : List (List Char) :=
  (headerTokens h "sec-websocket-protocol").filter (!·.isEmpty)

/-- What the server lists. -/
def listed (protocols : Option String) : List (List Char) :=
  (protocols.map protocolList).getD []

/-- The server lists this subprotocol, or the star that stands for all. -/
def Supports (protocols : Option String) (p : List Char) : Prop :=
  p ∈ listed protocols ∨ ['*'] ∈ listed protocols

/-- One of the two sides does not care, or an offer is supported. -/
def HasCommon (h : Headers) (protocols : Option String) : Prop :=
  listed protocols = [] ∨ offers h = [] ∨ ∃ p ∈ offers h, Supports protocols p

/-- The decision about a request: which check is the first to fail, or what is agreed. -/
inductive Decision (h : Headers) (protocols : Option String) :
    Except Rejection Accepted → Prop where
  | noUpgrade (hno : ¬ AsksForUpgrade h) :
      Decision h protocols (.error (.badRequest "missing websocket upgrade headers"))
  | noVersion (hask : AsksForUpgrade h) (hno : ¬ SpeaksVersion h) :
      Decision h protocols (.error .version)
  | noKey (hask : AsksForUpgrade h) (hversion : SpeaksVersion h) (hno : ∀ key, ¬ BringsKey h key) :
      Decision h protocols (.error (.badRequest "missing Sec-WebSocket-Key"))
  | noCommon {key : Bytes} (hask : AsksForUpgrade h) (hversion : SpeaksVersion h)
      (hkey : BringsKey h key) (hno : ¬ HasCommon h protocols) :
      Decision h protocols (.error .version)
  | indifferent {key : Bytes} (hask : AsksForUpgrade h) (hversion : SpeaksVersion h)
      (hkey : BringsKey h key) (hempty : listed protocols = [] ∨ offers h = []) :
      Decision h protocols (.ok ⟨acceptKey key, none⟩)
  | agreed {key : Bytes} {before after : List (List Char)} {p : List Char}
      (hask : AsksForUpgrade h) (hversion : SpeaksVersion h) (hkey : BringsKey h key)
      (hlisted : listed protocols ≠ []) (hoffers : offers h = before ++ p :: after)
      (hsupports : Supports protocols p) (hearliest : ∀ q ∈ before, ¬ Supports protocols q) :
      Decision h protocols (.ok ⟨acceptKey key, some (String.ofList p)⟩)

/-! ### List headers -/

theorem mem_headerTokens_iff (h : Headers) (name : String) (element : List Char) :
    element ∈ headerTokens h name ↔ Lists h name element := by
  unfold headerTokens Lists
  simp only [List.mem_flatMap, List.mem_map, Text.mem_splitOn_iff]

theorem any_headerTokens_iff (h : Headers) (name word : String) :
    (headerTokens h name).any (Text.eqIgnoringCase · word.toList) = true ↔
      ListsWord h name word := by
  unfold ListsWord
  simp only [List.any_eq_true, mem_headerTokens_iff, Text.eqIgnoringCase, beq_iff_eq]

theorem isUpgradeRequest_iff (h : Headers) : isUpgradeRequest h = true ↔ AsksForUpgrade h := by
  unfold isUpgradeRequest AsksForUpgrade
  rw [Bool.and_eq_true, any_headerTokens_iff, any_headerTokens_iff]

-- An offer is an element of the client's list that is not empty.
theorem mem_offers_iff (h : Headers) (p : List Char) :
    p ∈ offers h ↔ Lists h "sec-websocket-protocol" p ∧ p ≠ [] := by
  unfold offers
  rw [List.mem_filter, mem_headerTokens_iff, Bool.not_eq_true', List.isEmpty_eq_false_iff]

-- Only readable lines are cut, so whatever is offered is readable.
theorem readable_of_lists {h : Headers} {name : String} {element : List Char}
    (hlists : Lists h name element) : ∀ c ∈ element, IsReadableChar c := by
  rcases hlists with ⟨line, hline, piece, ⟨_, before, after, hcut, _⟩, rfl⟩
  intro c hc
  refine readable_of_texts hline c ?_
  rw [hcut]
  exact List.mem_append_right _ (List.mem_append_left _ (Text.mem_of_mem_trimBy hc))

/-! ### The decision -/

theorem speaksVersion_iff (h : Headers) : SpeaksVersion h ↔
    (h.text? "sec-websocket-version").map (fun v => Text.trim v.toList) =
      some supportedVersion.toList := by
  unfold SpeaksVersion
  rw [Option.map_eq_some_iff]

-- The check for a subprotocol, of a request that has passed all others.
theorem selectProtocol_decides {h : Headers} (protocols : Option String) {key : Bytes}
    (hask : AsksForUpgrade h) (hversion : SpeaksVersion h) (hkey : BringsKey h key) :
    Decision h protocols ((selectProtocol h protocols).map fun protocol =>
      ⟨acceptKey key, protocol⟩) := by
  have hselect := selectProtocol.eq_def h protocols
  dsimp only at hselect
  rw [← listed, ← offers] at hselect
  have hsupports : ∀ p, ((listed protocols).contains ['*'] ||
      (listed protocols).contains p) = true ↔ Supports protocols p := by
    intro p
    unfold Supports
    rw [Bool.or_eq_true, List.contains_iff_mem, List.contains_iff_mem, or_comm]
  rw [hselect]
  by_cases hempty : listed protocols = [] ∨ offers h = []
  · rw [if_pos (by simpa only [Bool.or_eq_true, List.isEmpty_iff] using hempty)]
    exact .indifferent hask hversion hkey hempty
  · rw [if_neg (by simpa only [Bool.or_eq_true, List.isEmpty_iff] using hempty)]
    rw [not_or] at hempty
    generalize hfind : List.find? _ (offers h) = found
    cases found with
    | none =>
        rw [List.find?_eq_none] at hfind
        refine .noCommon hask hversion hkey ?_
        rintro (hlisted | hoffers | ⟨p, hp, hsupported⟩)
        · exact hempty.1 hlisted
        · exact hempty.2 hoffers
        · exact hfind p hp ((hsupports p).2 hsupported)
    | some p =>
        rw [List.find?_eq_some_iff_append] at hfind
        rcases hfind with ⟨hp, before, after, hoffers, hearlier⟩
        refine .agreed hask hversion hkey hempty.1 hoffers ((hsupports p).1 hp) fun q hq hno => ?_
        rw [← hsupports q] at hno
        have hnot := hearlier q hq
        rw [hno] at hnot
        cases hnot

theorem negotiate_decides (h : Headers) (protocols : Option String) :
    Decision h protocols (negotiate h protocols) := by
  unfold negotiate
  by_cases hask : AsksForUpgrade h
  · rw [(isUpgradeRequest_iff h).2 hask]
    by_cases hversion : SpeaksVersion h
    · rw [(speaksVersion_iff h).1 hversion]
      rcases hkey : h.get? "sec-websocket-key" with _ | (_ | ⟨b, key⟩)
      · refine .noKey hask hversion fun key hbrings => ?_
        cases hkey.symm.trans hbrings.1
      · refine .noKey hask hversion fun key hbrings => ?_
        cases hkey.symm.trans hbrings.1
        exact hbrings.2 rfl
      · have hselect := selectProtocol_decides protocols hask hversion
          (show BringsKey h (b :: key) from ⟨hkey, List.cons_ne_nil b key⟩)
        generalize selectProtocol h protocols = selected at hselect
        cases selected with
        | ok protocol => exact hselect
        | error e => exact hselect
    · have hwrong : (h.text? "sec-websocket-version").map (fun v => Text.trim v.toList) ≠
          some supportedVersion.toList := fun heq => hversion ((speaksVersion_iff h).2 heq)
      dsimp only
      rw [if_pos hwrong]
      exact .noVersion hask hversion
  · have hfail : isUpgradeRequest h = false := by
      rw [Bool.eq_false_iff]
      exact fun heq => hask ((isUpgradeRequest_iff h).1 heq)
    rw [hfail]
    exact .noUpgrade hask

theorem readable_of_negotiate {h : Headers} {protocols : Option String} {a : Accepted}
    {p : String} (hok : negotiate h protocols = .ok a) (hp : a.protocol = some p) :
    ∀ c ∈ p.toList, IsReadableChar c := by
  have d := negotiate_decides h protocols
  generalize negotiate h protocols = r at d hok
  subst hok
  cases d with
  | indifferent _ _ _ _ => cases hp
  | agreed _ _ _ _ hoffers _ _ =>
      cases hp
      rw [String.toList_ofList]
      refine readable_of_lists ((mem_offers_iff h _).1 ?_).1
      rw [hoffers]
      exact List.mem_append_right _ List.mem_cons_self

theorem Decision.ok_iff {h : Headers} {protocols : Option String}
    {r : Except Rejection Accepted} (d : Decision h protocols r) : (∃ a, r = .ok a) ↔
      AsksForUpgrade h ∧ SpeaksVersion h ∧ (∃ key, BringsKey h key) ∧ HasCommon h protocols := by
  cases d with
  | noUpgrade hno => exact ⟨by rintro ⟨a, ⟨⟩⟩, fun hall => absurd hall.1 hno⟩
  | noVersion _ hno => exact ⟨by rintro ⟨a, ⟨⟩⟩, fun hall => absurd hall.2.1 hno⟩
  | noKey _ _ hno =>
      refine ⟨by rintro ⟨a, ⟨⟩⟩, ?_⟩
      rintro ⟨_, _, ⟨key, hkey⟩, _⟩
      exact absurd hkey (hno key)
  | noCommon _ _ _ hno => exact ⟨by rintro ⟨a, ⟨⟩⟩, fun hall => absurd hall.2.2.2 hno⟩
  | indifferent hask hversion hkey hempty =>
      exact ⟨fun _ => ⟨hask, hversion, ⟨_, hkey⟩, hempty.imp_right .inl⟩, fun _ => ⟨_, rfl⟩⟩
  | agreed hask hversion hkey _ hoffers hsupports _ =>
      have hoffered := hoffers ▸ List.mem_append_right _ List.mem_cons_self
      exact ⟨fun _ => ⟨hask, hversion, ⟨_, hkey⟩, .inr (.inr ⟨_, hoffered, hsupports⟩)⟩,
        fun _ => ⟨_, rfl⟩⟩

/-- A handshake is accepted exactly if the request asks for the upgrade, speaks the version,
    brings a key and has a subprotocol in common with the server if both care. What is
    agreed then is the earliest offer that is supported, or none if and only if one side
    does not care. Otherwise the first of these that fails decides how it is refused. -/
theorem negotiate_first_failure_decides (h : Headers) (protocols : Option String) :
    ((∃ a, negotiate h protocols = .ok a) ↔
      AsksForUpgrade h ∧ SpeaksVersion h ∧ (∃ key, BringsKey h key) ∧ HasCommon h protocols) ∧
    (∀ a, negotiate h protocols = .ok a →
      (∃ key, BringsKey h key ∧ a.acceptKey = acceptKey key) ∧
      (a.protocol = none ↔ listed protocols = [] ∨ offers h = []) ∧
      ∀ s, a.protocol = some s → ∃ before p after, s = String.ofList p ∧
        offers h = before ++ p :: after ∧ Supports protocols p ∧
        ∀ q ∈ before, ¬ Supports protocols q) ∧
    (¬ AsksForUpgrade h →
      negotiate h protocols = .error (.badRequest "missing websocket upgrade headers")) ∧
    (AsksForUpgrade h → ¬ SpeaksVersion h → negotiate h protocols = .error .version) ∧
    (AsksForUpgrade h → SpeaksVersion h → (∀ key, ¬ BringsKey h key) →
      negotiate h protocols = .error (.badRequest "missing Sec-WebSocket-Key")) ∧
    (AsksForUpgrade h → SpeaksVersion h → (∃ key, BringsKey h key) → ¬ HasCommon h protocols →
      negotiate h protocols = .error .version) := by
  have d := negotiate_decides h protocols
  have hok := d.ok_iff
  generalize negotiate h protocols = r at d hok ⊢
  refine ⟨hok, ?_, ?_, ?_, ?_, ?_⟩
  · rintro a rfl
    cases d with
    | indifferent _ _ hkey hempty =>
        exact ⟨⟨_, hkey, rfl⟩, ⟨fun _ => hempty, fun _ => rfl⟩, by rintro s ⟨⟩⟩
    | agreed _ _ hkey hlisted hoffers hsupports hearliest =>
        refine ⟨⟨_, hkey, rfl⟩, ⟨by rintro ⟨⟩, ?_⟩, ?_⟩
        · rintro (hempty | hempty)
          · exact absurd hempty hlisted
          · rw [hempty] at hoffers
            cases List.append_eq_nil_iff.1 hoffers.symm |>.2
        · rintro s ⟨⟩
          exact ⟨_, _, _, rfl, hoffers, hsupports, hearliest⟩
  · intro hno
    cases d <;> first | rfl | contradiction
  · intro hask hno
    cases d <;> first | rfl | contradiction
  · intro hask hversion hno
    cases d with
    | noKey _ _ _ => rfl
    | noUpgrade hno' | noVersion _ hno' => contradiction
    | noCommon _ _ hkey _ | indifferent _ _ hkey _ | agreed _ _ hkey _ _ _ _ =>
        exact absurd hkey (hno _)
  · rintro hask hversion ⟨key, hkey⟩ hno
    cases d with
    | noCommon _ _ _ _ => rfl
    | noUpgrade hno' | noVersion _ hno' => contradiction
    | noKey _ _ hno' => exact absurd hkey (hno' key)
    | indifferent _ _ _ _ | agreed _ _ _ _ _ _ _ =>
        exact absurd (hok.1 ⟨_, rfl⟩).2.2.2 hno

end WebSocket

end DemandNet
