import GraphClient.Proofs.Decoding
import GraphClient.Proofs.ExchangeRuns

/-!
# Results in one frame and in many

A server may cut the items of a result into chunks and send each in a partial frame of its own. The
exchange then completes with the same values as when all items come at once: each item is decoded
by itself, and the chunks add up in their order.
-/

namespace GraphClient

open GraphSON

namespace Response

/-- A frame for a request with a code and a wire list as its data. -/
structure Brings (id : Uuid) (code : Nat) (items : List Json) (f : Response) : Prop where
  isFor : f.isFor id = true
  code : f.status.code = code
  data : ∃ json, f.result.data = some json ∧
    Envelope.ofJson? json = some ⟨Tag.list, .array items⟩

/-- A frame that ends a stream of chunks, with the items that it brings itself. -/
inductive Closes (id : Uuid) (f : Response) : List Json → Prop
  | chunk {items : List Json} (h : f.Brings id 200 items) : Closes id f items
  | empty (isFor : f.isFor id = true) (code : f.status.code = 200) (data : f.data? = none) :
      Closes id f []
  | noContent (isFor : f.isFor id = true) (code : f.status.code = 204) : Closes id f []

/-- A wire list that a frame has as its data is not taken for absent data. -/
lemma Brings.data? {id : Uuid} {code : Nat} {items : List Json} {f : Response}
    (h : f.Brings id code items) :
    ∃ json, f.data? = some json ∧ Envelope.ofJson? json = some ⟨Tag.list, .array items⟩ := by
  obtain ⟨json, hd, hj⟩ := h.data
  refine ⟨json, ?_, hj⟩
  rw [Response.data?, hd]
  cases json with
  | null => cases hj
  | _ => rfl

end Response

namespace Exchange

variable {decoder : Decoder} {x : Exchange} {f : Response} {items : List Json}

/-- A chunk in a partial frame adds its decoded items to the results. -/
lemma onFrame_of_chunk (hd : decoder.handler? Tag.list = some Handler.list)
    (hf : f.Brings x.requestId 206 items) :
    x.onFrame decoder f =
      ({ x with results := x.results ++ items.map decoder.value, state := .accumulating },
        .proceed) := by
  obtain ⟨json, hdata, hj⟩ := hf.data?
  have hforeign : x.isForeign f = false := by rw [isForeign_eq, hf.isFor]; rfl
  simp [onFrame, hforeign, Response.code?, hf.code, ResponseCode.ofCode?, hdata,
    Decoder.results_of_list hd hj]

/-- The frame that ends the stream completes the exchange with its own items after all others. -/
lemma onFrame_of_closes (hd : decoder.handler? Tag.list = some Handler.list)
    (hf : f.Closes x.requestId items) :
    (x.onFrame decoder f).2 = .complete (x.results ++ items.map decoder.value) := by
  have hforeign (hown : f.isFor x.requestId = true) : x.isForeign f = false := by
    rw [isForeign_eq, hown]
    rfl
  cases hf with
  | chunk h =>
    obtain ⟨json, hdata, hj⟩ := h.data?
    simp [onFrame, hforeign h.isFor, Response.code?, h.code, ResponseCode.ofCode?, completeWith,
      hdata, Decoder.results_of_list hd hj]
  | empty hown code data =>
    simp [onFrame, hforeign hown, Response.code?, code, ResponseCode.ofCode?, completeWith, data,
      Decoder.results_none]
  | noContent hown code =>
    simp [onFrame, hforeign hown, Response.code?, code, ResponseCode.ofCode?, completeWith]

/-- Partial frames with chunks, and then one that ends the stream: the values there were before,
those of the chunks and those of the last frame. -/
lemma feed_of_chunks (hd : decoder.handler? Tag.list = some Handler.list) {id : Uuid}
    {chunks : List (List Json)} {frames : List Response}
    (hchunks : List.Forall₂ (fun chunk f => f.Brings id 206 chunk) chunks frames)
    {rest : List Json} {last : Response} (hlast : last.Closes id rest) (hid : x.requestId = id) :
    (x.feed decoder (frames ++ [last])).2 = frames.map (fun _ => .proceed) ++
      [.complete (x.results ++ (chunks.flatten ++ rest).map decoder.value)] := by
  -- on the chunks; the exchange keeps its request and gathers the values
  induction hchunks generalizing x with
  | nil =>
    subst hid
    have hend := onFrame_of_closes hd hlast
    rw [List.nil_append, feed_cons_of_end [] (by rw [hend]; rfl), hend]
    rfl
  | @cons chunk f chunks frames hf _ ih =>
    have hstep := onFrame_of_chunk hd (hid ▸ hf)
    have hrest := ih (x := (x.onFrame decoder f).1) ((onFrame_same x decoder f).1.trans hid)
    rw [List.cons_append, feed_cons_of_not_end _ (by rw [hstep]; rfl), hrest, hstep]
    simp only [List.map_cons, List.cons_append, List.flatten_cons, List.append_assoc,
      List.map_append]

/-- However a result is cut into chunks, empty ones included, and whichever way the stream of the
partial frames ends, a fresh exchange passes over these frames and completes with the same values as
when the whole list comes at once: its decoded items, one by one and in order. -/
theorem feed_chunks_eq_whole (id : Uuid) (hasCredentials : Bool) (decoder : Decoder)
    (hd : decoder.handler? Tag.list = some Handler.list) (items rest : List Json)
    (chunks : List (List Json)) (hcut : chunks.flatten ++ rest = items)
    (frames : List Response)
    (hchunks : List.Forall₂ (fun chunk f => f.Brings id 206 chunk) chunks frames)
    (last : Response) (hlast : last.Closes id rest)
    (whole : Response) (hwhole : whole.Brings id 200 items) :
    ((new id hasCredentials).feed decoder (frames ++ [last])).2 =
        frames.map (fun _ => .proceed) ++ [.complete (items.map decoder.value)] ∧
      ((new id hasCredentials).feed decoder [whole]).2 =
        [.complete (items.map decoder.value)] := by
  constructor
  · rw [feed_of_chunks hd hchunks hlast rfl, hcut]
    rfl
  · exact feed_of_chunks hd .nil (.chunk hwhole) rfl

/-- A frame that names no request, with a wire list as its data. -/
def listFrame (code : Nat) (items : List Json) : Response :=
  ⟨none, ⟨code, none, none⟩, ⟨some (Envelope.toJson ⟨Tag.list, .array items⟩), none⟩⟩

/-- A null, a list that holds a null, and a number. -/
def mixedItems : List Json := [.null, Envelope.toJson ⟨Tag.list, .array [.null]⟩, .number (.int 7)]

lemma brings_listFrame (id : Uuid) (code : Nat) (items : List Json) :
    (listFrame code items).Brings id code items :=
  ⟨rfl, rfl, _, rfl, Envelope.ofJson?_toJson _⟩

/-- The items come out as they are, the null and the inner list too, after an empty chunk and
however the stream ends. -/
theorem feed_chunks_of_mixedItems :
    Decoder.standard.handler? Tag.list = some Handler.list ∧
      mixedItems.map Decoder.standard.value = [.null, .list [.null], .integer 7] ∧
      ((new .nil false).feed Decoder.standard
          ([listFrame 206 [], listFrame 206 (mixedItems.take 2)] ++
            [listFrame 200 (mixedItems.drop 2)])).2 =
        [.proceed, .proceed, .complete (mixedItems.map Decoder.standard.value)] ∧
      ((new .nil false).feed Decoder.standard
          ([listFrame 206 mixedItems] ++ [⟨none, ⟨200, none, none⟩, ⟨none, none⟩⟩])).2 =
        [.proceed, .complete (mixedItems.map Decoder.standard.value)] ∧
      ((new .nil false).feed Decoder.standard
          ([listFrame 206 mixedItems] ++ [⟨none, ⟨204, none, none⟩, ⟨none, none⟩⟩])).2 =
        [.proceed, .complete (mixedItems.map Decoder.standard.value)] ∧
      ((new .nil false).feed Decoder.standard [listFrame 200 mixedItems]).2 =
        [.complete (mixedItems.map Decoder.standard.value)] := by
  have hd : Decoder.standard.handler? Tag.list = some Handler.list := rfl
  have hwhole := brings_listFrame .nil 200 mixedItems
  have hall := brings_listFrame .nil 206 mixedItems
  obtain ⟨hcut, hone⟩ := feed_chunks_eq_whole .nil false Decoder.standard hd mixedItems
    (mixedItems.drop 2) [[], mixedItems.take 2] rfl _
    (.cons (brings_listFrame .nil 206 _) (.cons (brings_listFrame .nil 206 _) .nil)) _
    (.chunk (brings_listFrame .nil 200 _)) _ hwhole
  refine ⟨hd, rfl, hcut, ?_, ?_, hone⟩
  · exact (feed_chunks_eq_whole .nil false Decoder.standard hd mixedItems [] [mixedItems] rfl _
      (.cons hall .nil) _ (.empty rfl rfl rfl) _ hwhole).1
  · exact (feed_chunks_eq_whole .nil false Decoder.standard hd mixedItems [] [mixedItems] rfl _
      (.cons hall .nil) _ (.noContent rfl rfl) _ hwhole).1

end Exchange

end GraphClient
