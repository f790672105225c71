import SmartHome.RingFifo

/-!
# Connections

A connection of `connection.c` with its receive FIFO. The functions on the FIFO
pass it on; `connection_put` drops the count that `kfifo_put` returns.
-/

namespace SmartHome.Connections

open SmartHome.RingFifo

set_option autoImplicit false

inductive ConnType
  | connfree
  | connznp
  | connsocketclient
  | connsocketserver
  | connsocketcmd
  deriving DecidableEq

structure Connection where
  fd : Int
  conntype : ConnType
  rawfifo : Kfifo
  timestamp : Int

/-- `connection_create`: the storage is what `malloc` returned for the FIFO. -/
def connectionCreate (storage : List UInt8) (now : Int) : Connection where
  fd := 0
  conntype := .connfree
  rawfifo := kfifoInit storage 1024
  timestamp := now

/-- `freeconnlist_getconn`: the first free connection is reset and taken off the list. -/
def freeconnlistGetconn (freeconnlist : List Connection) (storage : List UInt8) (now : Int) :
    Connection × List Connection :=
  match freeconnlist with
  | [] => (connectionCreate storage now, [])
  | c :: rest =>
      ({ fd := 0, conntype := .connfree, rawfifo := kfifoReset c.rawfifo, timestamp := now }, rest)

def connectionInit (c : Connection) (fd : Int) (conntype : ConnType) : Connection :=
  { c with fd := fd, conntype := conntype }

def connectionPut (c : Connection) (buf : List UInt8) (buflen : UInt32) : Connection :=
  { c with rawfifo := (kfifoPut c.rawfifo buf buflen).2 }

def connectionGet (c : Connection) (msglen : UInt32) : UInt32 × List UInt8 × Connection :=
  let copied := kfifoGet c.rawfifo msglen
  (copied.1, copied.2.1, { c with rawfifo := copied.2.2 })

def connectionReadbufGetahead (c : Connection) (buflen : UInt32) : UInt32 × List UInt8 :=
  kfifoGetahead c.rawfifo buflen

def connectionReadbufPop (c : Connection) : Connection :=
  { c with rawfifo := kfifoPop c.rawfifo }

def pending (c : Connection) : List UInt8 := contents c.rawfifo

/-- The FIFO of every connection has 1024 bytes. -/
structure WellFormed (c : Connection) : Prop where
  valid : Valid c.rawfifo
  size : c.rawfifo.size = 1024

namespace WellFormed

theorem pending_le {c : Connection} (formed : WellFormed c) : (pending c).length ≤ 1024 := by
  have bound := formed.valid.contents_le
  rw [formed.size] at bound
  exact bound

theorem pending_in_order {c : Connection} (formed : WellFormed c)
    (order : c.rawfifo.outCount ≤ c.rawfifo.inCount) :
    (pending c).length = c.rawfifo.inCount.toNat - c.rawfifo.outCount.toNat := by
  rw [pending, formed.valid.contents_length, kfifoLen, UInt32.toNat_sub_of_le _ _ order]

end WellFormed

theorem connection_create_formed (storage : List UInt8) (now : Int)
    (length : storage.length = 1024) : WellFormed (connectionCreate storage now) :=
  ⟨kfifo_init_valid storage 1024 10 rfl length, rfl⟩

structure Fresh (c : Connection) : Prop where
  formed : WellFormed c
  inCount : c.rawfifo.inCount = 0
  outCount : c.rawfifo.outCount = 0

theorem Fresh.pending_nil {c : Connection} (fresh : Fresh c) : pending c = [] := by
  apply List.eq_nil_of_length_eq_zero
  rw [pending, fresh.formed.valid.contents_length, kfifoLen, fresh.inCount, fresh.outCount]
  rfl

theorem freeconnlist_getconn_fresh (freeconnlist : List Connection) (storage : List UInt8)
    (now : Int) (length : storage.length = 1024) (formed : ∀ c ∈ freeconnlist, WellFormed c)
    (fd : Int) (conntype : ConnType) :
    Fresh (connectionInit (freeconnlistGetconn freeconnlist storage now).1 fd conntype) := by
  cases freeconnlist with
  | nil => exact ⟨⟨(connection_create_formed storage now length).valid, rfl⟩, rfl, rfl⟩
  | cons c rest =>
      have head := formed c (by simp)
      exact ⟨⟨kfifo_reset_valid head.valid, head.size⟩, rfl, rfl⟩

theorem connection_put_spec {c : Connection} (formed : WellFormed c) (buf : List UInt8)
    (bound : buf.length < 2 ^ 32) :
    let after := connectionPut c buf (UInt32.ofNat buf.length)
    pending after = pending c ++ buf.take (1024 - (pending c).length) ∧ WellFormed after ∧
      after.rawfifo.inCount =
        c.rawfifo.inCount + UInt32.ofNat (min buf.length (1024 - (pending c).length)) ∧
      after.rawfifo.outCount = c.rawfifo.outCount := by
  intro after
  obtain ⟨stored, appended, valid, size, inCount, outCount⟩ :=
    kfifo_put_whole_spec formed.valid buf bound
  rw [formed.size] at stored appended
  refine ⟨appended, ⟨valid, size.trans formed.size⟩, ?_, outCount⟩
  change (kfifoPut _ _ _).2.inCount = c.rawfifo.inCount +
    UInt32.ofNat (min buf.length ((1024 : UInt32).toNat - (contents c.rawfifo).length))
  rw [inCount, ← stored, UInt32.ofNat_toNat]

theorem connection_readbuf_getahead_spec {c : Connection} (formed : WellFormed c)
    (buflen : UInt32) :
    (connectionReadbufGetahead c buflen).1.toNat = min buflen.toNat (pending c).length ∧
      (connectionReadbufGetahead c buflen).2 = (pending c).take buflen.toNat :=
  kfifo_getahead_spec formed.valid buflen

theorem connection_get_spec {c : Connection} (formed : WellFormed c) (msglen : UInt32)
    (present : msglen.toNat ≤ (pending c).length) :
    let after := (connectionGet c msglen).2.2
    (connectionGet c msglen).2.1 = (pending c).take msglen.toNat ∧
      pending after = (pending c).drop msglen.toNat ∧ WellFormed after ∧
      after.rawfifo.inCount = c.rawfifo.inCount ∧
      after.rawfifo.outCount = c.rawfifo.outCount + msglen := by
  intro after
  obtain ⟨copied, bytes, dropped, valid, size, inCount, outCount⟩ :=
    kfifo_get_spec formed.valid msglen
  have whole : (kfifoGet c.rawfifo msglen).1 = msglen :=
    UInt32.toNat_inj.mp (copied.trans (Nat.min_eq_left present))
  rw [whole] at dropped outCount
  exact ⟨bytes, dropped, ⟨valid, size.trans formed.size⟩, inCount, outCount⟩

theorem connection_get_in_order {c : Connection} (formed : WellFormed c)
    (order : c.rawfifo.outCount ≤ c.rawfifo.inCount) (msglen : UInt32)
    (present : msglen.toNat ≤ (pending c).length) :
    (connectionGet c msglen).2.2.rawfifo.outCount ≤
      (connectionGet c msglen).2.2.rawfifo.inCount := by
  obtain ⟨-, -, -, inCount, outCount⟩ := connection_get_spec formed msglen present
  have length := formed.pending_in_order order
  have bound : c.rawfifo.inCount.toNat < 2 ^ 32 := c.rawfifo.inCount.toNat_lt
  have ordered : c.rawfifo.outCount.toNat ≤ c.rawfifo.inCount.toNat := order
  rw [inCount, outCount, UInt32.le_iff_toNat_le, UInt32.toNat_add]
  omega

end SmartHome.Connections
