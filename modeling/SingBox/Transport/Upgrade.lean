import SingBox.Lib.Arrival

/-!
# Connections after an HTTP upgrade

The WebSocket and the HTTPUpgrade client read the response of the server through a buffered reader,
which may have read the beginning of the stream together with it. Both clients allocate a buffer
for these bytes and put it in front of the connection. But they ask the new buffer to read as many
bytes as it holds, which is none, so the bytes that were read ahead are lost. The HTTP transport
asks for the right number.
-/

namespace SingBox.Upgrade
open Arrival

abbrev Bytes := List UInt8

structure BufReader where
  buffered : Bytes
  conn : List Bytes

/-- The connection is read only when the reader has no bytes. -/
def readResponse (response : Bytes) (reads : List Bytes) : BufReader :=
  let rest := (takeFull response.length reads).2
  ⟨rest.headD [], rest.tail⟩

structure Buffer where
  capacity : ℕ
  data : Bytes := []

def Buffer.newSize (size : ℕ) : Buffer := { capacity := size }

variable (buffer : Buffer)

def Buffer.len : ℕ := buffer.data.length

def Buffer.readFullFrom (reader : BufReader) (size : ℕ) : Except String Buffer :=
  if buffer.capacity < buffer.len + size then .error "short buffer"
  else
    let (data, _) := takeFull size (reader.buffered :: reader.conn)
    if data.length < size then .error "unexpected EOF"
    else .ok { buffer with data := buffer.data ++ data }

structure CachedConn where
  buffer : Bytes := []
  conn : List Bytes

def CachedConn.stream (c : CachedConn) : Bytes := c.buffer ++ c.conn.flatten

variable (reader : BufReader)

/-- What the clients do with the reader after the response. -/
def dialContext : Except String CachedConn :=
  if reader.buffered.length = 0 then .ok { conn := reader.conn }
  else do
    let buffer := Buffer.newSize reader.buffered.length
    let buffer ← buffer.readFullFrom reader buffer.len
    return ⟨buffer.data, reader.conn⟩

/-- The end of `Client.dialContext` of the WebSocket transport. The library returns no reader if
nothing is buffered. -/
def webSocketDialContext : Except String CachedConn := dialContext reader

/-- The end of `Client.DialContext` of the HTTPUpgrade transport. -/
def httpUpgradeDialContext : Except String CachedConn := dialContext reader

/-- The cache of `HTTPConn.Read`. -/
def httpConn : Except String CachedConn := do
  let cacheLen := reader.buffered.length
  let responseCache ← (Buffer.newSize cacheLen).readFullFrom reader cacheLen
  return ⟨responseCache.data, reader.conn⟩

variable {response stream : Bytes} {reads : List Bytes}

lemma readResponse_stream (h : reads.flatten = response ++ stream) :
    (readResponse response reads).buffered ++ (readResponse response reads).conn.flatten =
    stream := by
  have hrest : (takeFull response.length reads).2.flatten = stream := by
    rw [takeFull_snd, h, List.drop_left]
  rw [← hrest, readResponse]
  cases (takeFull response.length reads).2 <;> rfl

lemma stream_eq_iff {reader : BufReader} (h : reader.buffered ++ reader.conn.flatten = stream) :
    reader.conn.flatten = stream ↔ reader.buffered = [] := by
  rw [← h, eq_comm, List.append_left_eq_self]

lemma dialContext_eq : dialContext reader = .ok { conn := reader.conn } := by
  rw [dialContext]
  split_ifs
  · rfl
  · have htake : takeFull 0 (reader.buffered :: reader.conn) =
        ([], reader.buffered :: reader.conn) := by simp [takeFull]
    simp [Buffer.newSize, Buffer.len, Buffer.readFullFrom, htake]

/-- Nothing is lost exactly if nothing came with the response. -/
theorem dialContext_stream_iff (h : reads.flatten = response ++ stream) :
    ∃ conn, dialContext (readResponse response reads) = .ok conn ∧
      conn.stream = stream.drop (readResponse response reads).buffered.length ∧
      (conn.stream = stream ↔ (readResponse response reads).buffered = []) := by
  have hstream := readResponse_stream h
  generalize readResponse response reads = reader at hstream ⊢
  have hconn : (CachedConn.mk [] reader.conn).stream = reader.conn.flatten := rfl
  refine ⟨_, dialContext_eq reader, ?_, ?_⟩
  · rw [hconn, ← hstream, List.drop_left]
  · rw [hconn, stream_eq_iff hstream]

/-- The response of a server that switches protocols. -/
def switching : Bytes :=
  "HTTP/1.1 101 Switching Protocols\r\n\r\n".toList.map fun c => UInt8.ofNat c.toNat

theorem dialContext_stream_iff_apart :
    ∃ conn, dialContext (readResponse switching [switching.take 9, switching.drop 9, [3, 4]]) =
      .ok conn ∧ conn.stream = [3, 4] := by
  have h : [switching.take 9, switching.drop 9, [3, 4]].flatten = switching ++ [3, 4] := by decide
  obtain ⟨conn, hconn, -, hiff⟩ := dialContext_stream_iff h
  exact ⟨conn, hconn, hiff.2 (by decide)⟩

/-- A byte that arrives with the response is lost, except over HTTP. -/
theorem not_dialContext_stream_together :
    let reads : List Bytes := [switching ++ [3], [4]]
    reads.flatten = switching ++ [3, 4] ∧
      (webSocketDialContext (readResponse switching reads)).map CachedConn.stream = .ok [4] ∧
      (httpUpgradeDialContext (readResponse switching reads)).map CachedConn.stream = .ok [4] ∧
      (httpConn (readResponse switching reads)).map CachedConn.stream = .ok [3, 4] := by
  decide +kernel

end SingBox.Upgrade
