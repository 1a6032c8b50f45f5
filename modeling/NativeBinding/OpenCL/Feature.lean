/-! The features whose functions are known, each with its capability tag. -/
namespace NativeBinding.OpenCL

inductive Feature where
  | core10
  | core11
  | core12
  | core20
  | sharing10
  | sharing12
  | khrSharing
  deriving DecidableEq

namespace Feature

/-- Every feature, in the order in which tables are resolved. -/
def all : List Feature := [core10, core11, core12, core20, sharing10, sharing12, khrSharing]

/-- The capability tag of the feature. -/
def tag : Feature → String
  | core10 => "OpenCL10"
  | core11 => "OpenCL11"
  | core12 => "OpenCL12"
  | core20 => "OpenCL20"
  | sharing10 => "OpenCL10GL"
  | sharing12 => "OpenCL12GL"
  | khrSharing => "cl_khr_gl_sharing"

/-- The functions that the feature requires. -/
def functions : Feature → List String
  | core10 => [
    "clGetPlatformIDs",
    "clGetPlatformInfo",
    "clGetDeviceIDs",
    "clGetDeviceInfo",
    "clCreateContext",
    "clReleaseContext",
    "clCreateCommandQueue",
    "clReleaseCommandQueue",
    "clCreateBuffer",
    "clReleaseMemObject",
    "clEnqueueReadBuffer",
    "clEnqueueWriteBuffer",
    "clCreateProgramWithSource",
    "clBuildProgram",
    "clReleaseProgram",
    "clCreateKernel",
    "clSetKernelArg",
    "clReleaseKernel",
    "clEnqueueNDRangeKernel",
    "clFinish"]
  | core11 => [
    "clCreateSubBuffer",
    "clSetMemObjectDestructorCallback",
    "clCreateUserEvent",
    "clSetUserEventStatus",
    "clSetEventCallback",
    "clEnqueueReadBufferRect",
    "clEnqueueWriteBufferRect",
    "clEnqueueCopyBufferRect"]
  | core12 => [
    "clGetExtensionFunctionAddressForPlatform",
    "clCreateSubDevices",
    "clRetainDevice",
    "clReleaseDevice",
    "clCreateImage",
    "clCompileProgram",
    "clLinkProgram",
    "clUnloadPlatformCompiler",
    "clGetKernelArgInfo",
    "clEnqueueFillBuffer",
    "clEnqueueMarkerWithWaitList",
    "clEnqueueBarrierWithWaitList"]
  | core20 => [
    "clCreateCommandQueueWithProperties",
    "clCreatePipe",
    "clGetPipeInfo",
    "clSVMAlloc",
    "clSVMFree",
    "clEnqueueSVMFree",
    "clEnqueueSVMMap",
    "clEnqueueSVMUnmap",
    "clSetKernelArgSVMPointer",
    "clCreateSamplerWithProperties"]
  | sharing10 => [
    "clCreateFromGLBuffer",
    "clCreateFromGLTexture2D",
    "clCreateFromGLTexture3D",
    "clCreateFromGLRenderbuffer",
    "clGetGLObjectInfo",
    "clGetGLTextureInfo",
    "clEnqueueAcquireGLObjects",
    "clEnqueueReleaseGLObjects"]
  | sharing12 => ["clCreateFromGLTexture"]
  | khrSharing => ["clGetGLContextInfoKHR"]

end Feature

end NativeBinding.OpenCL
