import WirelessEsp.UsbipHeader

namespace WirelessEsp.UsbHandle

open UsbipHeader

def ascii (s : String) : List UInt8 := s.toList.map fun c => UInt8.ofNat c.toNat

def wide (s : List UInt8) : List UInt8 := s.flatMap fun c => [c, 0]

def kUSBd0DeviceDescriptor : List UInt8 :=
  [0x12, 0x01, 0x10, 0x02, 0x00, 0x00, 0x00, 64, 0x51, 0xC2, 0x0A, 0xF0, 0x00, 0x01, 0x01, 0x02,
    0x03, 0x01]

def kUSBd0InterfaceDescriptor : List UInt8 :=
  [0x09, 0x04, 0x00, 0x00, 0x03, 0xFF, 0x00, 0x00, 0x02] ++
  [0x07, 0x05, 0x01, 0x02, 0x00, 0x02, 0x00] ++
  [0x07, 0x05, 0x81, 0x02, 0x00, 0x02, 0x00] ++
  [0x07, 0x05, 0x82, 0x02, 0x00, 0x02, 0x00]

def kUSBd0ConfigDescriptor : List UInt8 := [0x09, 0x02, 39, 0x00, 0x01, 0x01, 0x00, 0x80, 250]

def kLangDescriptor : List UInt8 := [4, 0x03, 0x09, 0x04]

def msOs20DescriptorSetHeader : List UInt8 :=
  [0x0A, 0x00, 0x00, 0x00, 0x00, 0x00, 0x03, 0x06, 0xA2, 0x00] ++
  [0x14, 0x00, 0x03, 0x00] ++ ascii "WINUSB" ++ List.replicate 10 0 ++
  [0x84, 0x00, 0x04, 0x00, 0x07, 0x00, 0x2A, 0x00] ++ wide (ascii "DeviceInterfaceGUIDs") ++ [0, 0] ++
  [0x50, 0x00] ++ wide (ascii "\x7bCDB3B5AD-293B-4663-AA36-1AAE46463776\x7d") ++ [0, 0, 0, 0]

def bosDescriptor : List UInt8 :=
  [0x05, 0x0F, 0x21, 0x00, 0x01, 0x1C, 0x10, 0x05, 0x00] ++
  [0xDF, 0x60, 0xDD, 0xD8, 0x89, 0x45, 0xC7, 0x4C, 0x9C, 0xD2, 0x65, 0x9D, 0x9E, 0x64, 0x8A, 0x9F] ++
  [0x00, 0x00, 0x03, 0x06, 0xA2, 0x00, 0x01, 0x00]

def stringsList : List (List UInt8) :=
  [[], ascii "windowsair", ascii "Wireless ESP CMSIS-DAP", ascii "1234"]

def USB_REQ_GET_STATUS : UInt8 := 0
def USB_REQ_CLEAR_FEATURE : UInt8 := 1
def USB_REQ_SET_FEATURE : UInt8 := 3
def USB_REQ_SET_ADDRESS : UInt8 := 5
def USB_REQ_GET_DESCRIPTOR : UInt8 := 6
def USB_REQ_SET_DESCRIPTOR : UInt8 := 7
def USB_REQ_GET_CONFIGURATION : UInt8 := 8
def USB_REQ_SET_CONFIGURATION : UInt8 := 9
def USB_REQ_GET_INTERFACE : UInt8 := 10
def USB_REQ_SET_INTERFACE : UInt8 := 11
def USB_REQ_SET_SYNCH_FRAME : UInt8 := 12
def USB_REQ_SET_IDLE : UInt8 := 10

def MS_OS_20_DESCRIPTOR_INDEX : UInt32 := 7

def bmRequestType (h : Stage2Header) : UInt8 := h.setup[0]

def bRequest (h : Stage2Header) : UInt8 := h.setup[1]

def wValueLow (h : Stage2Header) : UInt8 := h.setup[2]

def wValueHigh (h : Stage2Header) : UInt8 := h.setup[3]

def wIndex (h : Stage2Header) : UInt32 := h.setup[4].toUInt32 ||| h.setup[5].toUInt32 <<< 8

def wLength (h : Stage2Header) : UInt32 := h.setup[6].toUInt32 ||| h.setup[7].toUInt32 <<< 8

/-- The string descriptor that is put together in `temp_buff`. -/
def stringDescriptor (s : List UInt8) : List UInt8 :=
  UInt8.ofNat (2 + 2 * s.length) :: 0x03 :: wide s

def acknowledge (h : Stage2Header) : List Send := sendStage2SubmitData h 0 []

/-- The reply to a request for string `index`; `none` when the index is outside of
`strings_list`, which the source does not check. -/
def getString (h : Stage2Header) (index : UInt8) : Option (List Send) :=
  if index == 0 then some (sendStage2SubmitData h 0 kLangDescriptor)
  else if index != 0xEE then
    (stringsList[index.toNat]?).map fun s => sendStage2SubmitData h 0 (stringDescriptor s)
  else some (sendStage2Submit h 0 0)

def getConfiguration (h : Stage2Header) : List Send :=
  if h.dataLength == UInt32.ofNat kUSBd0ConfigDescriptor.length then
    sendStage2Submit h 0 h.dataLength ++ [.payload kUSBd0ConfigDescriptor]
  else
    sendStage2Submit h 0
        (UInt32.ofNat (kUSBd0ConfigDescriptor.length + kUSBd0InterfaceDescriptor.length)) ++
      [.payload kUSBd0ConfigDescriptor, .payload kUSBd0InterfaceDescriptor]

def handleGetDescriptor (h : Stage2Header) : Option (List Send) :=
  match wValueHigh h with
  | 1 => some (sendStage2SubmitData h 0 kUSBd0DeviceDescriptor)
  | 2 => some (getConfiguration h)
  | 3 => getString h (wValueLow h)
  | 4 => some (sendStage2Submit h 0 0)
  | 5 => some (sendStage2Submit h 0 0)
  | 6 => some (sendStage2SubmitData h 0 (.replicate 10 0))
  | 7 => some (sendStage2Submit h 0 0)
  | 8 => some (sendStage2Submit h 0 0)
  | 15 => some (sendStage2SubmitData h 0 (bosDescriptor.take (wLength h).toNat))
  | _ => some []

def acknowledgeIf (requests : List UInt8) (h : Stage2Header) : List Send :=
  if requests.contains (bRequest h) then acknowledge h else []

def handleUsbControlRequest (h : Stage2Header) : Option (List Send) :=
  match bmRequestType h with
  | 0x00 => some (acknowledgeIf [USB_REQ_CLEAR_FEATURE, USB_REQ_SET_FEATURE, USB_REQ_SET_ADDRESS,
      USB_REQ_SET_DESCRIPTOR, USB_REQ_SET_CONFIGURATION] h)
  | 0x01 => some (acknowledgeIf [USB_REQ_CLEAR_FEATURE, USB_REQ_SET_FEATURE,
      USB_REQ_SET_INTERFACE] h)
  | 0x02 => some (acknowledgeIf [USB_REQ_CLEAR_FEATURE, USB_REQ_SET_FEATURE] h)
  | 0x80 =>
      if bRequest h == USB_REQ_GET_DESCRIPTOR then handleGetDescriptor h
      else some (acknowledgeIf [USB_REQ_GET_CONFIGURATION, USB_REQ_GET_STATUS] h)
  | 0x81 => some (acknowledgeIf [USB_REQ_GET_INTERFACE, USB_REQ_SET_SYNCH_FRAME,
      USB_REQ_GET_STATUS] h)
  | 0x82 => some (acknowledgeIf [USB_REQ_GET_STATUS] h)
  | 0xC0 =>
      if wIndex h == MS_OS_20_DESCRIPTOR_INDEX then
        some (sendStage2SubmitData h 0 msOs20DescriptorSetHeader)
      else some []
  | 0x21 => some (acknowledgeIf [USB_REQ_SET_IDLE] h)
  | _ => some []

example : kUSBd0InterfaceDescriptor.length = 0x1E ∧ msOs20DescriptorSetHeader.length = 0xA2 ∧
    bosDescriptor.length = 0x21 := ⟨rfl, rfl, rfl⟩

end WirelessEsp.UsbHandle
