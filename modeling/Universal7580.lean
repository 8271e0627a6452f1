import Universal7580.PageBytesProofs
import Universal7580.DtbhBlockProofs
import Universal7580.BootImageProofs
import Universal7580.UnpackbootimgProofs
import Universal7580.BootAddressProofs
import Universal7580.DtbhBoundsProofs
import Universal7580.DtbhOrderProofs
import Universal7580.UnpackdtbhimgProofs
import Universal7580.RunProofs
import Universal7580.SlotPoolProofs
import Universal7580.RilClientProofs
import Universal7580.RilClientMatchProofs
import Universal7580.RilClientSocketProofs
import Universal7580.KeyedListProofs
import Universal7580.RilPendingProofs
import Universal7580.RilCommandsProofs
import Universal7580.RilRadioProofs
import Universal7580.RilExactProofs
import Universal7580.RilWakeLockProofs
import Universal7580.RilTimerProofs
import Universal7580.RilWatchProofs
import Universal7580.LedOffProofs
import Universal7580.PanelBrightnessProofs
import Universal7580.RwLockProofs
import Universal7580.RilCallbacksProofs
import Universal7580.RilNitzProofs
import Universal7580.RilUnsolProofs
import Universal7580.RilSapProofs
import Universal7580.SapPayloadProofs
import Universal7580.AudioRoutingProofs
import Universal7580.AudioHalProofs
import Universal7580.AudioMovesProofs
import Universal7580.AudioRefCountProofs
import Universal7580.AudioBackendProofs
import Universal7580.AudioLedgerProofs
import Universal7580.AudioUsecaseProofs
import Universal7580.AudioOffloadProofs
import Universal7580.AudioPrimaryProofs
import Universal7580.GuardedProofs
import Universal7580.AudioLocksProofs
import Universal7580.LockOpsProofs
import Universal7580.AudioWriteLocksProofs
import Universal7580.LifetimeProofs
import Universal7580.EchoReferenceProofs
import Universal7580.VoiceSessionProofs
import Universal7580.VoicePcmProofs
import Universal7580.CaptureReadProofs
import Universal7580.RegistryProofs
import Universal7580.AidlModuleProofs
import Universal7580.AidlRoutingProofs
import Universal7580.AidlStreamProofs
import Universal7580.AnswerSlotProofs
import Universal7580.TraceProofs
import Universal7580.MailboxProofs
import Universal7580.BtVendorInterfaceProofs
import Universal7580.BtInternalCommandProofs
import Universal7580.BtLowPowerProofs
import Universal7580.BtSessionProofs
import Universal7580.ScanfProofs
import Universal7580.BtAddressProofs
import Universal7580.CameraCallbackProofs
import Universal7580.CameraOwnershipProofs
import Universal7580.Utf8SeqProofs
import Universal7580.JstringProofs
import Universal7580.JstringCountedProofs
import Universal7580.CameraWrapperProofs
import Universal7580.IsolationProofs
import Universal7580.CameraIsolationProofs
import Universal7580.StrtolProofs
import Universal7580.CameraOpenProofs
import Universal7580.RilPayloadProofs
import Universal7580.RilConnectProofs
import Universal7580.RilOneShotProofs
import Universal7580.MealyProofs
import Universal7580.BoundedMapProofs
import Universal7580.RilHandlersProofs
import Universal7580.EffectQueryProofs
import Universal7580.LedgerProofs
import Universal7580.SapClientProofs
import Universal7580.SapReleaseProofs
import Universal7580.CameraMetadataProofs
import Universal7580.ListMapProofs
import Universal7580.CameraMetadataMapProofs
import Universal7580.ByteLoadProofs
import Universal7580.RilResponseProofs
import Universal7580.AudioActiveInputProofs
import Universal7580.PreprocessorProofs
import Universal7580.CaptureStreamProofs
import Universal7580.CaptureBufferProofs
import Universal7580.CaptureStartProofs
import Universal7580.SecNativeFeatureProofs
import Universal7580.LoopProofs
import Universal7580.RilWriteProofs
import Universal7580.CStringsProofs
import Universal7580.LinesProofs
import Universal7580.WifiloaderProofs
import Universal7580.MacloaderProofs
import Universal7580.ModemloaderProofs
import Universal7580.OffloadThreadProofs
import Universal7580.OffloadAnswersProofs
import Universal7580.OffloadWaitProofs
import Universal7580.OffloadMutexProofs
import Universal7580.OffloadMetadataProofs
import Universal7580.RilWakeupProofs
import Universal7580.OwnedSlotsProofs
import Universal7580.RilRequestHeapProofs
import Universal7580.RilDataCallProofs
import Universal7580.BootRoundTripProofs
import Universal7580.DtbhRoundTripProofs
