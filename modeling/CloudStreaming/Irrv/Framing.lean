import CloudStreaming.Irrv.Steps

/-!
# Output framing under send failures

Every caller of `sock_server_send` hands over a part of an event: `irrv_writeback` the frame event and then
the frame, the others a whole event. On one connection the parts handed over, in order, always make up
complete events (`Events`). What goes out is a prefix of each part, and no caller looks at how much that
was. So once a part is cut short, by the 10-second time-out or by an error, the next event goes out in the
middle of the cut one if the connection still takes bytes (`cut_then_message`); the bytes of a connection
are a prefix of complete events if it does not (`framed_of_cutOff`).
-/

namespace CloudStreaming.Irrv

open Bytes Runs

/-! ## Well-formed events -/

/-- The declared size of an event of this type. -/
def declaredSize (type : UInt32) : Option UInt32 :=
  if type = irrvEventVhead ∨ type = irrvEventVframe ∨ type = irrvEventMessage then some 48
  else if type = irrvEventVauthAck then some 76
  else none

/-- One complete event of the server: the header with `IRRV_MAGIC` and the size of its type, that many bytes
in all, and after a `VFRAME` the `data_size` bytes of the frame. -/
inductive Complete : Buf → Prop where
  | mk (type size value : UInt32) (body data : Buf) (hsize : declaredSize type = some size)
      (hbody : eventLen + body.length = size.toNat)
      (hdata : data.length = if type = irrvEventVframe then (wordAt body 1).toNat else 0) :
      Complete (event irrvMagic type size value ++ body ++ data)

/-- A concatenation of complete events. -/
inductive Framed : Buf → Prop where
  | nil : Framed []
  | snoc (b e : Buf) (hb : Framed b) (he : Complete e) : Framed (b ++ e)

theorem Framed.head {b : Buf} (h : Framed b) : b = [] ∨ ∃ e rest, Complete e ∧ b = e ++ rest := by
  induction h with
  | nil => exact Or.inl rfl
  | snoc b e _ he ih =>
    right
    rcases ih with rfl | ⟨e', rest, he', rfl⟩
    · exact ⟨e, [], he, by simp⟩
    · exact ⟨e', rest ++ e, he', by simp⟩

/-- The first header of a concatenation of events declares the size of its type. -/
theorem Framed.size {b : Buf} (h : Framed b) (hb : b ≠ []) : declaredSize (wordAt b 1) = some (wordAt b 2) := by
  rcases h.head with rfl | ⟨e, rest, he, rfl⟩
  · exact absurd rfl hb
  · cases he with
    | mk type size value body data hsize _ _ =>
      have hw := wordAt_words (body ++ (data ++ rest)) [irrvMagic, type, size, value]
      simp only [event, List.append_assoc]
      rw [hw 1 (by simp), hw 2 (by simp)]
      exact hsize

/-- An event without frame data. -/
theorem Complete.fixed (type size value : UInt32) (body : Buf) (hsize : declaredSize type = some size)
    (hbody : eventLen + body.length = size.toNat) (ht : type ≠ irrvEventVframe) :
    Complete (event irrvMagic type size value ++ body) := by
  have h := Complete.mk type size value body [] hsize hbody (by rw [if_neg ht]; rfl)
  rwa [List.append_nil] at h

theorem headEvent_complete (d : Dims) (b : Bool) : Complete (World.headEvent d b) :=
  Complete.fixed irrvEventVhead 48 0 _ (by decide) (by simp [eventLen]) (by decide)

theorem vauthAckEvent_complete (r : AuthResult) : Complete (vauthAckEvent r) := by
  have h := Complete.fixed irrvEventVauthAck 76 0 (zeros 32 ++ words [r.toWord, 0, 0, 0, 0, 0, 0]) (by decide)
    (by simp [eventLen]) (by decide)
  rwa [← List.append_assoc] at h

theorem messageEvent_complete (msg value : UInt32) : Complete (messageEvent msg value) :=
  Complete.fixed irrvEventMessage 48 0 _ (by decide) (by simp [eventLen]) (by decide)

theorem vframe_complete (flags width height : UInt32) (data : Buf) (hd : data.length < 2 ^ 32) :
    Complete (vframeEvent flags (UInt32.ofNat data.length) width height ++ data) := by
  refine Complete.mk irrvEventVframe 48 0 (words [flags, UInt32.ofNat data.length, 0, 0, width, height, 0, 0]) data
    (by decide) (by simp [eventLen]) ?_
  have hw := wordAt_words [] [flags, UInt32.ofNat data.length, 0, 0, width, height, 0, 0] 1 (by simp)
  rw [List.append_nil] at hw
  rw [if_pos rfl, hw]
  simp only [List.getD_cons_succ, List.getD_cons_zero, UInt32.toNat_ofNat']
  omega

/-! ## The sends of one connection -/

/-- A buffer handed to `sock_server_send`, with the outcomes of its `send` calls. -/
abbrev Send := Buf × List SysOutcome

def sendOf (c : Conn) : Event → Option Send
  | .send c' data os => if c' = c then some (data, os) else none
  | _ => none

/-- The sends of a connection, oldest first. -/
def sendsOn (c : Conn) (log : List Event) : List Send := (log.filterMap (sendOf c)).reverse

/-- The bytes that went out. -/
def transmitted (xs : List Send) : Buf := xs.flatMap (fun x => sockServerSend x.2 x.1)

/-- Not all of the buffer went out. -/
def EndsEarly (x : Send) : Prop := (sockServerSend x.2 x.1).length < x.1.length

def SysOutcome.moves : SysOutcome → Bool
  | .moved _ _ => true
  | _ => false

/-- Every `send` call on it fails. -/
def Dead (x : Send) : Prop := ∀ o ∈ x.2, o.moves = false

instance (x : Send) : Decidable (EndsEarly x) := inferInstanceAs (Decidable (_ < _))

instance (x : Send) : Decidable (Dead x) := inferInstanceAs (Decidable (∀ o ∈ x.2, _ = _))

/-- The parts handed over make up complete events. -/
inductive Events : List Send → Prop where
  | nil : Events []
  | whole (xs : List Send) (x : Send) (h : Events xs) (hx : Complete x.1) : Events (xs ++ [x])
  | parts (xs : List Send) (x y : Send) (h : Events xs) (hxy : Complete (x.1 ++ y.1)) : Events (xs ++ [x, y])

theorem sendsOn_cons (c : Conn) (e : Event) (log : List Event) :
    sendsOn c (e :: log) = sendsOn c log ++ (sendOf c e).toList :=
  reverse_filterMap_cons ..

theorem sockLoop_dead : ∀ (os : List SysOutcome) (left avail : Nat), (∀ o ∈ os, o.moves = false) →
    sockLoop os left avail = 0
  | [], _, _, _ => rfl
  | .error :: _, _, _, _ => rfl
  | .again t :: os, left, avail, h => by
    unfold sockLoop
    split
    · rfl
    · exact sockLoop_dead os left avail (fun o ho => h o (List.mem_cons_of_mem _ ho))
  | .moved n t :: os, _, _, h => by cases h _ List.mem_cons_self

theorem Dead.sends {x : Send} (h : Dead x) : sockServerSend x.2 x.1 = [] := by
  unfold sockServerSend
  rw [sockLoop_dead x.2 _ _ h, List.take_zero]

theorem sockServerSend_whole {x : Send} (h : ¬ EndsEarly x) : sockServerSend x.2 x.1 = x.1 := by
  unfold EndsEarly at h
  unfold sockServerSend at h ⊢
  rw [List.length_take] at h
  exact List.take_of_length_le (by omega)

/-- What goes out is a prefix of the buffer. -/
theorem sockServerSend_extends (x : Send) : ∃ rest, sockServerSend x.2 x.1 ++ rest = x.1 :=
  ⟨x.1.drop (sockLoop x.2 x.1.length x.1.length), List.take_append_drop _ _⟩

theorem transmitted_append (xs ys : List Send) : transmitted (xs ++ ys) = transmitted xs ++ transmitted ys :=
  List.flatMap_append ..

theorem transmitted_whole : ∀ {xs : List Send}, (∀ x ∈ xs, ¬ EndsEarly x) → transmitted xs = (xs.map Prod.fst).flatten
  | [], _ => rfl
  | x :: xs, h => by
    have ih := transmitted_whole (fun y hy => h y (List.mem_cons_of_mem x hy))
    have hx := sockServerSend_whole (h x List.mem_cons_self)
    unfold transmitted at ih ⊢
    rw [List.flatMap_cons, hx, ih]
    rfl

theorem Events.framed {xs : List Send} (h : Events xs) : Framed (xs.map Prod.fst).flatten := by
  induction h with
  | nil => exact .nil
  | whole xs x _ hx ih =>
    have := Framed.snoc _ x.1 ih hx
    simpa using this
  | parts xs x y _ hxy ih =>
    have := Framed.snoc _ (x.1 ++ y.1) ih hxy
    simpa using this

/-- Once a send ends early, every later one is dead. -/
def CutOff (xs : List Send) : Prop := xs.Pairwise (fun x y => EndsEarly x → Dead y)

instance (xs : List Send) : Decidable (CutOff xs) := inferInstanceAs (Decidable (List.Pairwise _ xs))

theorem CutOff.silent {xs ys : List Send} (h : CutOff (xs ++ ys)) (he : ∃ x ∈ xs, EndsEarly x) :
    transmitted ys = [] := by
  obtain ⟨x, hx, hxe⟩ := he
  have hdead : ∀ y ∈ ys, Dead y := fun y hy => (List.pairwise_append.1 h).2.2 x hx y hy hxe
  unfold transmitted
  rw [List.flatMap_eq_nil_iff]
  exact fun y hy => (hdead y hy).sends

/-- More sends after `xs`: if one of `xs` ends early they send nothing, else they follow all of its bytes. -/
theorem CutOff.extends_append {xs ys : List Send} (hcut : CutOff (xs ++ ys))
    (hxs : CutOff xs → ∃ rest, Framed (transmitted xs ++ rest))
    (hys : ∃ rest, Framed ((xs.map Prod.fst).flatten ++ transmitted ys ++ rest)) :
    ∃ rest, Framed (transmitted (xs ++ ys) ++ rest) := by
  classical
  rw [transmitted_append]
  by_cases he : ∃ y ∈ xs, EndsEarly y
  · rw [hcut.silent he, List.append_nil]
    exact hxs (List.pairwise_append.1 hcut).1
  · push Not at he
    rw [transmitted_whole (fun y hy => he y hy)]
    exact hys

/-- **The bytes of one connection**: with sends that make up events and are cut off once, a prefix of a
concatenation of events. -/
theorem Events.extends {xs : List Send} (h : Events xs) : CutOff xs → ∃ rest, Framed (transmitted xs ++ rest) := by
  classical
  induction h with
  | nil => exact fun _ => ⟨[], .nil⟩
  | whole xs x hev hx ih =>
    intro hcut
    apply hcut.extends_append ih
    obtain ⟨rest, hrest⟩ := sockServerSend_extends x
    refine ⟨rest, ?_⟩
    have hb := Framed.snoc _ x.1 hev.framed hx
    simpa [transmitted, hrest] using hb
  | parts xs x y hev hxy ih =>
    intro hcut
    apply hcut.extends_append ih
    have hb := Framed.snoc _ (x.1 ++ y.1) hev.framed hxy
    by_cases hx : EndsEarly x
    · -- the event is cut in its first part: the second must not go out
      have hy : Dead y := by
        have h2 := (List.pairwise_append.1 hcut).2.1
        exact (List.pairwise_cons.1 h2).1 y List.mem_cons_self hx
      obtain ⟨rest, hrest⟩ := sockServerSend_extends x
      refine ⟨rest ++ y.1, ?_⟩
      have : sockServerSend x.2 x.1 ++ (rest ++ y.1) = x.1 ++ y.1 := by rw [← List.append_assoc, hrest]
      simpa [transmitted, hy.sends, this] using hb
    · obtain ⟨rest, hrest⟩ := sockServerSend_extends y
      refine ⟨rest, ?_⟩
      simpa [transmitted, sockServerSend_whole hx, hrest] using hb

/-! ## Every run -/

namespace World

/-- On every connection the parts handed over make up complete events, as long as no frame is so long
that its size does not fit `data_size`. -/
def EventsInv (w : World) : Prop :=
  ∀ c, (∀ x ∈ sendsOn c w.log, x.1.length < 2 ^ 32) → Events (sendsOn c w.log)

theorem EventsInv.frame {w w' : World} (h : EventsInv w) (hlog : w'.log = w.log) : EventsInv w' := by
  intro c; rw [hlog]; exact h c

/-- A step that records something else than a send. -/
theorem EventsInv.record {w : World} (h : EventsInv w) (e : Event) (he : ∀ c, sendOf c e = none) :
    EventsInv (w.record e) := by
  intro c
  rw [record_log, sendsOn_cons, he c]
  simpa using h c

/-- A whole event. -/
theorem EventsInv.whole {w : World} (h : EventsInv w) (c : Conn) (data : Buf) (os : List SysOutcome)
    (hd : Complete data) : EventsInv (w.record (.send c data os)) := by
  intro c'
  rw [record_log, sendsOn_cons]
  by_cases hc : c = c'
  · subst hc
    intro hlen
    simp only [sendOf, if_true, Option.toList_some] at hlen ⊢
    exact .whole _ _ (h c (fun x hx => hlen x (List.mem_append_left _ hx))) hd
  · simpa [sendOf, hc] using h c'

/-- A frame: the event, then the data. -/
theorem EventsInv.vframe {w : World} (h : EventsInv w) (c : Conn) (flags width height : UInt32) (data : Buf)
    (os os' : List SysOutcome) :
    EventsInv ((w.record (.send c (vframeEvent flags (UInt32.ofNat data.length) width height) os)).record
      (.send c data os')) := by
  intro c'
  rw [record_log, record_log, sendsOn_cons, sendsOn_cons]
  by_cases hc : c = c'
  · subst hc
    intro hlen
    simp only [sendOf, if_true, Option.toList_some, List.append_assoc, List.singleton_append] at hlen ⊢
    refine .parts _ _ _ (h c (fun x hx => hlen x (List.mem_append_left _ hx)))
      (vframe_complete flags width height data ?_)
    exact hlen (data, os') (by simp)
  · simpa [sendOf, hc] using h c'

theorem EventsInv.sendTo {w : World} (h : EventsInv w) (client : Option Conn) (data : Buf) (os : List SysOutcome)
    (hd : Complete data) : EventsInv (w.sendTo client data os) := by
  cases client with
  | none => exact h
  | some c => exact h.whole c data os hd

theorem eventsInv_preserved : Preserved EventsInv where
  accept w s io h _ := by
    unfold acceptClient
    cases io.created with
    | false => exact h.frame rfl
    | true =>
      have h1 := h.record (.accept s w.nextConn) (fun _ => rfl)
      exact EventsInv.sendTo (h1.frame rfl) (some w.nextConn) _ io.sendHead (headEvent_complete io.dims w.authFlag)
  header w c os h := (h.record (.header c (w.pos c)) (fun _ => rfl)).frame rfl
  body _ _ _ _ h := h.frame rfl
  pass w s c body os h _ _ _ :=
    ((h.record (.vauth s c body) (fun _ => rfl)).whole c _ os (vauthAckEvent_complete .passed)).frame rfl
  fail w s c body os h _ _ _ :=
    ((h.record (.vauth s c body) (fun _ => rfl)).whole c _ os (vauthAckEvent_complete .failed)).frame rfl
  vctrl w s c v h _ _ := by
    obtain ⟨f, hf, -⟩ := applyVctrl_cases w s c v
    rw [hf]
    exact (h.record (.vctrl s c v) (fun _ => rfl)).frame rfl
  abort _ h := h.frame rfl
  drop w s c h _ := by
    have h1 := h.record (.drop s c) (fun _ => rfl)
    unfold dropClient
    dsimp only
    split <;> exact h1.frame rfl
  frame w s c data flags io h _ _ := (h.record (.vframe s c ⟨data, flags⟩) (fun _ => rfl)).vframe c flags _ _ data _ _
  message w s msg value os h := h.sendTo (w.clients s) _ os (messageEvent_complete msg value)
  close _ _ h := h.frame rfl
  peer _ _ _ h := h.frame rfl

end World

/-- **Output framing**: after any run of the callbacks, on any connection whose frames fit `data_size` and
which takes no byte once a send on it has ended early, the bytes transmitted are a prefix of a
concatenation of complete events. -/
theorem framed_of_cutOff (streamer : Option Streamer) (ops : List Op) (c : Conn)
    (hlen : ∀ x ∈ sendsOn c (ops.foldl step (World.init streamer)).log, x.1.length < 2 ^ 32)
    (hcut : CutOff (sendsOn c (ops.foldl step (World.init streamer)).log)) :
    ∃ rest, Framed (transmitted (sendsOn c (ops.foldl step (World.init streamer)).log) ++ rest) := by
  have hinit : (World.init streamer).EventsInv := fun c _ => .nil
  have h := World.eventsInv_preserved.run ops _ hinit
  exact (h c hlen).extends hcut

/-- A connection that is accepted and gets a message. -/
def acceptThenMessage (head message : List SysOutcome) : List Op :=
  [.checknewconn 0 { Io.ready with selected := false, sendHead := head }, .sendMessage 0 1 0 message]

/-- The `VHEAD` goes out in two pieces, the message breaks off with the connection. -/
theorem framed_acceptThenMessage :
    ∃ rest, Framed (transmitted (sendsOn 0 ((acceptThenMessage [.moved 9 false, .again false, .moved 40 false]
      [.moved 4 false, .error]).foldl step (World.init (some ⟨false, 0, false, false⟩))).log) ++ rest) :=
  framed_of_cutOff (some ⟨false, 0, false, false⟩) _ 0 (by decide) (by decide)

/-- **A cut event is followed by the next one**: the `VHEAD` times out after 10 bytes, and the message goes
out behind them; no continuation makes that a sequence of events. -/
theorem cut_then_message :
    ¬ ∃ rest, Framed (transmitted (sendsOn 0 ((acceptThenMessage [.moved 9 true] [.moved 47 false]).foldl step
      (World.init (some ⟨false, 0, false, false⟩))).log) ++ rest) := by
  rintro ⟨rest, h⟩
  have ht : transmitted (sendsOn 0 ((acceptThenMessage [.moved 9 true] [.moved 47 false]).foldl step
      (World.init (some ⟨false, 0, false, false⟩))).log) =
      [0xc6, 0xd2, 0xc9, 0xc9, 0, 0x10, 0, 0, 48, 0] ++ messageEvent 1 0 := by decide
  rw [ht] at h
  -- the size field of the first header is made of the end of one event and the start of the next
  have hs := h.size (by simp)
  rw [wordAt_append rest (i := 1) (by decide), wordAt_append rest (i := 2) (by decide)] at hs
  exact absurd hs (by decide)

end CloudStreaming.Irrv
