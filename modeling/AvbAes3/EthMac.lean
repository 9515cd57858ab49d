import AvbAes3.Bytes

/-!
# The MAC's transmit slots

gptp.c, srp.c (MSRP and MVRP), avdecc.c and aaf.c each build their frames in
place in one of the MAC's `ETHMAC_TX_SLOTS` transmit slots, and each keeps
its own counter of the slot to use next. Sending writes the slot number,
the length and the start bit, then rotates the module's counter.
-/

namespace AvbAes3

/-- The modules with a transmit slot counter of their own. -/
inductive Producer
  | gptp | srp | avdecc | aaf
  deriving DecidableEq, Repr

/-- avb_soc.py builds the MAC with `ntxslots = 2`. -/
def ethmacTxSlots : Nat := 2

abbrev Slot := Fin ethmacTxSlots

/-- `(txslot + 1) % ETHMAC_TX_SLOTS` -/
def Slot.next (s : Slot) : Slot := ⟨(s.val + 1) % ethmacTxSlots, Nat.mod_lt _ (by decide)⟩

/-- Transmit slot memory and the four modules' slot counters. -/
structure EthMac where
  slots : Slot → Buffer
  txslot : Producer → Slot

def EthMac.init : EthMac where
  slots _ _ := 0
  txslot _ := ⟨0, by decide⟩

/-- Where the module builds its next frame: `tx_buf`, `srp_tx_buf`,
`avdecc_tx_buf` and `aaf_tx_buf_ptr`. -/
def EthMac.buf (mac : EthMac) (p : Producer) : Buffer := mac.slots (mac.txslot p)

/-- The slot memory with the module's next slot overwritten. -/
def EthMac.fill (mac : EthMac) (p : Producer) (b : Buffer) : EthMac :=
  { mac with slots := Function.update mac.slots (mac.txslot p) b }

def EthMac.rotate (mac : EthMac) (p : Producer) : EthMac :=
  { mac with txslot := Function.update mac.txslot p (mac.txslot p).next }

/-- A frame handed to the MAC, with the module it comes from. -/
structure TxFrame where
  producer : Producer
  bytes : List UInt8
  deriving DecidableEq, Repr

/-- Build a frame in the module's slot and send its first `length` bytes:
`eth_send`, `srp_eth_send`, `avdecc_eth_send` and `aaf_eth_send`, once the
reader is ready. -/
def EthMac.send (mac : EthMac) (p : Producer) (b : Buffer) (length : Nat) : EthMac × TxFrame :=
  ((mac.fill p b).rotate p, ⟨p, b.take length⟩)

end AvbAes3
