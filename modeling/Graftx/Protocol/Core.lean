/-! Wire constants of the protocol crate: version, errors, API namespaces and the
opcode of every call. -/
namespace Graftx.Protocol

abbrev Bytes := List UInt8

def protocolMajor : UInt16 := 0
def protocolMinor : UInt16 := 0

def defaultMaxFrameBody : UInt32 := (1 : UInt32) <<< 20

inductive ProtocolError where
  | unexpectedEof
  | unknownOpcode (op : UInt32)
  | badKind (kind : UInt16)
  | badVersion (major minor : UInt16)
  | frameTooLarge (len : UInt32)
  | bodyLenMismatch (declared : UInt32) (actual : Nat)
  deriving DecidableEq, Repr

inductive ApiId where
  | core | vulkan | openGl | cuda | openCl | hip | levelZero | video | webGpu | optiX | sycl | amf
  deriving DecidableEq, Repr

def ApiId.byte : ApiId → UInt8
  | .core => 0x00
  | .vulkan => 0x01
  | .openGl => 0x02
  | .cuda => 0x03
  | .openCl => 0x04
  | .hip => 0x05
  | .levelZero => 0x06
  | .video => 0x07
  | .webGpu => 0x08
  | .optiX => 0x09
  | .sycl => 0x0A
  | .amf => 0x0B

theorem ApiId.byte_inj {a b : ApiId} (h : a.byte = b.byte) : a = b := by
  cases a <;> cases b <;> first | rfl | exact absurd h (by decide)

def opcode (api : ApiId) (call : UInt32) : UInt32 :=
  (api.byte.toUInt32 <<< 24) ||| (call &&& 0x00FFFFFF)

def opcodeApi (op : UInt32) : UInt8 := (op >>> 24).toUInt8

namespace CoreOp
def hello : UInt32 := opcode .core 0x000001
def welcome : UInt32 := opcode .core 0x000002
def noop : UInt32 := opcode .core 0x000003
end CoreOp

namespace VkOp
def createInstance : UInt32 := opcode .vulkan 0x0001
def enumeratePhysicalDevices : UInt32 := opcode .vulkan 0x0003
def createDevice : UInt32 := opcode .vulkan 0x0005
def getDeviceQueue : UInt32 := opcode .vulkan 0x0007
def allocateMemory : UInt32 := opcode .vulkan 0x0010
def createBuffer : UInt32 := opcode .vulkan 0x0011
def bindBufferMemory : UInt32 := opcode .vulkan 0x0012
def destroyBuffer : UInt32 := opcode .vulkan 0x0013
def freeMemory : UInt32 := opcode .vulkan 0x0014
def createCommandPool : UInt32 := opcode .vulkan 0x0020
def allocateCommandBuffer : UInt32 := opcode .vulkan 0x0021
def queueSubmit : UInt32 := opcode .vulkan 0x0022
def cmdCopyBuffer : UInt32 := opcode .vulkan 0x0023
def cmdDraw : UInt32 := opcode .vulkan 0x0024
def destroyCommandPool : UInt32 := opcode .vulkan 0x0025
end VkOp

namespace GlOp
def createContext : UInt32 := opcode .openGl 0x0001
def makeCurrent : UInt32 := opcode .openGl 0x0002
def genBuffer : UInt32 := opcode .openGl 0x0003
def swapBuffers : UInt32 := opcode .openGl 0x0004
def deleteBuffer : UInt32 := opcode .openGl 0x0005
end GlOp

namespace CudaOp
def ctxCreate : UInt32 := opcode .cuda 0x0001
def memAlloc : UInt32 := opcode .cuda 0x0002
def memFree : UInt32 := opcode .cuda 0x0003
end CudaOp

namespace HipOp
def malloc : UInt32 := opcode .hip 0x0001
def free : UInt32 := opcode .hip 0x0002
def streamCreate : UInt32 := opcode .hip 0x0003
end HipOp

namespace ClOp
def createContext : UInt32 := opcode .openCl 0x0001
def createBuffer : UInt32 := opcode .openCl 0x0002
def releaseBuffer : UInt32 := opcode .openCl 0x0003
end ClOp

namespace L0Op
def contextCreate : UInt32 := opcode .levelZero 0x0001
def memAllocDevice : UInt32 := opcode .levelZero 0x0002
def memFree : UInt32 := opcode .levelZero 0x0003
end L0Op

namespace VideoOp
def createDecodeSession : UInt32 := opcode .video 0x0001
def decodeFrame : UInt32 := opcode .video 0x0002
def destroySession : UInt32 := opcode .video 0x0003
end VideoOp

namespace WgpuOp
def requestDevice : UInt32 := opcode .webGpu 0x0001
def createBuffer : UInt32 := opcode .webGpu 0x0002
def destroyBuffer : UInt32 := opcode .webGpu 0x0003
end WgpuOp

namespace OptixOp
def contextCreate : UInt32 := opcode .optiX 0x0001
def pipelineCreate : UInt32 := opcode .optiX 0x0002
def destroy : UInt32 := opcode .optiX 0x0003
end OptixOp

namespace SyclOp
def queueCreate : UInt32 := opcode .sycl 0x0001
def mallocDevice : UInt32 := opcode .sycl 0x0002
def free : UInt32 := opcode .sycl 0x0003
end SyclOp

namespace AmfOp
def createEncoder : UInt32 := opcode .amf 0x0001
def encodeFrame : UInt32 := opcode .amf 0x0002
def destroyEncoder : UInt32 := opcode .amf 0x0003
end AmfOp

example : VkOp.destroyCommandPool = 0x01000025 ∧ opcodeApi AmfOp.encodeFrame = ApiId.amf.byte := by
  decide

end Graftx.Protocol
