import LineProtocol.Transport.Basic

/-!
# What requests change

Each request to close gets one receipt.  Numbers of connections and listeners
are given out by `connect`, `bind` and `newId` alone, and never twice.
-/

namespace LineProtocol

namespace Transport

@[simp]
theorem alter_id
    (transport : Transport)
    (channel : ChannelId) :
    transport.alter channel id = transport := by
  have same : transport.channels.modify channel id = transport.channels := by
    simp [Table.modify]
  rw [alter, same]

/-! ## Receipts -/

@[simp]
theorem receipts_issue
    (transport : Transport)
    (receipt : Receipt) :
    (transport.issue receipt).2.receipts = transport.receipts ++ [receipt] :=
  rfl

theorem length_receipts_requestClose
    (transport : Transport)
    (id : ChannelId) :
    (transport.requestClose id).2.receipts.length = transport.receipts.length + 1 := by
  simp only [requestClose]
  cases (transport.record (.close id)).closeMode <;> simp [record]

theorem length_receipts_close
    (transport : Transport)
    (id : ChannelId) :
    (transport.close id).2.receipts.length = transport.receipts.length + 1 := by
  unfold close
  split
  · simp
  · exact length_receipts_requestClose _ id

/-! ## Numbers -/

@[simp]
theorem nextId_requestClose
    (transport : Transport)
    (id : ChannelId) :
    (transport.requestClose id).2.nextId = transport.nextId := by
  simp only [requestClose]
  cases (transport.record (.close id)).closeMode <;> rfl

@[simp]
theorem nextId_close
    (transport : Transport)
    (id : ChannelId) :
    (transport.close id).2.nextId = transport.nextId := by
  unfold close
  split
  · rfl
  · rw [nextId_requestClose]
    rfl

@[simp]
theorem nextId_closeListener
    (transport : Transport)
    (listener : Listener) :
    (transport.closeListener listener).2.nextId = transport.nextId :=
  nextId_requestClose transport listener.id

@[simp]
theorem nextId_write
    (transport : Transport)
    (id : ChannelId)
    (bytes : Bytes) :
    (transport.write id bytes).2.nextId = transport.nextId := by
  unfold write
  split
  · rfl
  · rfl

@[simp]
theorem nextId_reenter (transport : Transport) :
    transport.reenter.nextId = transport.nextId := by
  unfold reenter
  split
  · rfl
  · rfl

theorem nextId_le_bind
    (transport : Transport)
    (address : SocketAddress) :
    transport.nextId ≤ (transport.bind address).2.nextId := by
  have kept : (transport.reenter.record (.bind address)).nextId = transport.nextId :=
    transport.nextId_reenter
  unfold bind
  simp only
  split
  · exact Nat.le_of_eq kept.symm
  · simp only [newId, kept]
    omega

/-- A new connection gets the next number, whether it fails at once or not. -/
theorem connect_id
    (transport : Transport)
    (address : SocketAddress) :
    (transport.connect address).1 = ⟨transport.nextId⟩ := by
  simp [connect, newId]

theorem nextId_connect
    (transport : Transport)
    (address : SocketAddress) :
    (transport.connect address).2.2.nextId = transport.nextId + 1 := by
  simp [connect, newId, adopt, record]

end Transport

end LineProtocol
