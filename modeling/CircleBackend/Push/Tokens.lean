import CircleBackend.Session.Model

/-!
# Push tokens

The rows of `device_push_tokens` that the push service lists and disables.
-/

namespace CircleBackend.Push

open Session (UserId DeviceKey)

abbrev TxId := Nat
abbrev Token := JsString
abbrev SecretHash := JsString

inductive PushTokenPlatform
  | ios
  | android
  | web
  deriving DecidableEq, Repr

inductive PushTokenProvider
  | expo
  | jpush
  | apnsVoip
  deriving DecidableEq, Repr

inductive ApnsEnvironment
  | development
  | production
  deriving DecidableEq, Repr

structure DevicePushToken where
  id : TxId
  token : Token
  userID : UserId
  deviceKey : Option DeviceKey
  platform : PushTokenPlatform
  provider : PushTokenProvider
  projectId : Option JsString
  appVersion : Option JsString
  callPushVersion : Option Nat
  apnsEnvironment : Option ApnsEnvironment
  revocationSecretHash : Option SecretHash
  disabledAt : Option Time
  updatedAt : Time
  deriving DecidableEq, Repr

end CircleBackend.Push
