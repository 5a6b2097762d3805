import SealedLink.Asn1.Registry.Basic

/-!
# Names in certificates

Extensions, key purposes, and the parts of messages in which certificates are requested, managed and
validated.

## Main definitions

* `ObjectId.certificateNames` — all of them together
-/

namespace SealedLink.Asn1.ObjectId

/-- The roots of the identifiers for certificates and for archives. -/
def certificateRoots : Names := below [1, 3, 6, 1, 5, 5] [(7, "ID-PKIX"), (11, "LTANS")]

/-- The branches for certificates and their protocols. -/
def certificateBranches : Names :=
  row [1, 3, 6, 1, 5, 5, 7] 0
    ["ID-MOD", "ID-PE", "ID-QT", "ID-KP", "ID-IT", "ID-PKIP", "ID-ALG", "ID-CMC", "ID-ON", "ID-PDA",
     "ID-ACA", "ID-QCS", "ID-CCT", "ID-TEST", "ID-CP", "ID-CET", "ID-RI", "ID-STC", "ID-SWB", "ID-SVP",
     "ID-LOGO", "ID-PPL", "ID-MR", "ID-SKIS"]

/-- The branch for access to information. -/
def accessBranch : Names := below [1, 3, 6, 1, 5, 5, 7] [(48, "ID-AD")]

/-- Extensions of certificates for the Internet. -/
def privateExtensions : Names :=
  below [1, 3, 6, 1, 5, 5, 7, 1]
    [(1, "ID-PE-AUTHORITYINFOACCESS"), (4, "ID-PE-AC-AUDITIDENTITY"), (6, "ID-PE-AACONTROLS"),
     (7, "ID-PE-IPADDRBLOCKS"), (8, "ID-PE-AUTONOMOUSSYSIDS"), (10, "ID-PE-AC-PROXYING"),
     (11, "ID-PE-SUBJECTINFOACCESS"), (13, "ID-PE-WLANSSID")]

/-- Qualifiers of certificate policies. -/
def policyQualifiers : Names := below [1, 3, 6, 1, 5, 5, 7, 2] [(1, "ID-QT-CPS"), (2, "ID-QT-UNOTICE")]

/-- Purposes of keys. -/
def keyPurposes : Names :=
  below [1, 3, 6, 1, 5, 5, 7, 3]
    [(1, "ID-KP-SERVERAUTH"), (2, "ID-KP-CLIENTAUTH"), (3, "ID-KP-CODESIGNING"),
     (4, "ID-KP-EMAILPROTECTION"), (8, "ID-KP-TIMESTAMPING"), (9, "ID-KP-OCSPSIGNING"),
     (13, "ID-KP-EAPOVERPPP"), (14, "ID-KP-EAPOVERLAN"), (15, "ID-KP-SCVPSERVER"),
     (16, "ID-KP-SCVPCLIENT")]

/-- Information in certificate management messages. -/
def managementInformation : Names :=
  below [1, 3, 6, 1, 5, 5, 7, 4]
    [(1, "ID-IT-CAPROTENCCERT"), (2, "ID-IT-SIGNKEYPAIRTYPES"), (3, "ID-IT-ENCKEYPAIRTYPES"),
     (4, "ID-IT-PREFERREDSYMMALG"), (5, "ID-IT-CAKEYUPDATEINFO"), (6, "ID-IT-CURRENTCRL"),
     (7, "ID-IT-UNSUPPORTEDOIDS"), (10, "ID-IT-KEYPAIRPARAMREQ"), (11, "ID-IT-KEYPAIRPARAMREP"),
     (12, "ID-IT-REVPASSPHRASE"), (13, "ID-IT-IMPLICITCONFIRM"), (14, "ID-IT-CONFIRMWAITTIME"),
     (15, "ID-IT-ORIGPKIMESSAGE"), (16, "ID-IT-SUPPLANGTAGS")]

/-- The branches for registration. -/
def registrationBranches : Names :=
  below [1, 3, 6, 1, 5, 5, 7, 5]
    [(1, "ID-REGCTRL"), (2, "ID-REGINFO")]

/-- Controls of registration. -/
def registrationControls : Names :=
  row [1, 3, 6, 1, 5, 5, 7, 5, 1] 1
    ["ID-REGCTRL-REGTOKEN", "ID-REGCTRL-AUTHENTICATOR", "ID-REGCTRL-PKIPUBLICATIONINFO",
     "ID-REGCTRL-PKIARCHIVEOPTIONS", "ID-REGCTRL-OLDCERTID", "ID-REGCTRL-PROTOCOLENCRKEY"]

/-- Information for registration. -/
def registrationInformation : Names :=
  row [1, 3, 6, 1, 5, 5, 7, 5, 2] 1
    ["ID-REGINFO-UTF8PAIRS", "ID-REGINFO-CERTREQ"]

/-- Algorithms of certificate requests. -/
def requestAlgorithms : Names := below [1, 3, 6, 1, 5, 5, 7, 6] [(2, "ID-ALG-NOSIGNATURE")]

/-- Controls of certificate requests. -/
def requestControls : Names :=
  below [1, 3, 6, 1, 5, 5, 7, 7]
    [(1, "ID-CMC-STATUSINFO"), (2, "ID-CMC-IDENTIFICATION"), (3, "ID-CMC-IDENTITYPROOF"),
     (4, "ID-CMC-DATARETURN"), (5, "ID-CMC-TRANSACTIONID"), (6, "ID-CMC-SENDERNONCE"),
     (7, "ID-CMC-RECIPIENTNONCE"), (8, "ID-CMC-ADDEXTENSIONS"), (9, "ID-CMC-ENCRYPTEDPOP"),
     (10, "ID-CMC-DECRYPTEDPOP"), (11, "ID-CMC-LRAPOPWITNESS"), (15, "ID-CMC-GETCERT"),
     (16, "ID-CMC-GETCRL"), (17, "ID-CMC-REVOKEREQUEST"), (18, "ID-CMC-REGINFO"),
     (19, "ID-CMC-RESPONSEINFO"), (21, "ID-CMC-QUERYPENDING"), (22, "ID-CMC-POPLINKRANDOM"),
     (23, "ID-CMC-POPLINKWITNESS"), (24, "ID-CMC-CONFIRMCERTACCEPTANCE"), (25, "ID-CMC-STATUSINFOV2"),
     (26, "ID-CMC-TRUSTEDANCHORS"), (27, "ID-CMC-AUTHDATA"), (28, "ID-CMC-BATCHREQUESTS"),
     (29, "ID-CMC-BATCHRESPONSES"), (30, "ID-CMC-PUBLISHCERT"), (31, "ID-CMC-MODCERTTEMPLATE"),
     (32, "ID-CMC-CONTROLPROCESSED"), (33, "ID-CMC-POPLINKWITNESSV2"), (34, "ID-CMC-IDENTITYPROOFV2"),
     (99, "ID-CMC-GLARR")]

/-- Controls of requests about groups with a shared key. -/
def keyGroupControls : Names :=
  row [1, 3, 6, 1, 5, 5, 7, 7, 99] 1
    ["ID-CMC-GLA-SKDALGREQUEST", "ID-CMC-GLA-SKDALGRESPONSE"]

/-- Further kinds of names. -/
def otherNames : Names := below [1, 3, 6, 1, 5, 5, 7, 8] [(4, "ID-ON-HARDWAREMODULENAME")]

/-- Attributes in attribute certificates. -/
def attributeCertificateAttributes : Names :=
  below [1, 3, 6, 1, 5, 5, 7, 10]
    [(1, "ID-ACA-AUTHENTICATIONINFO"), (2, "ID-ACA-ACCESSIDENTITY"), (3, "ID-ACA-CHARGINGIDENTITY"),
     (4, "ID-ACA-GROUP"), (6, "ID-ACA-ENCATTRS"), (7, "ID-ACA-WLANSSID")]

/-- Contents of certificate requests. -/
def requestContents : Names :=
  below [1, 3, 6, 1, 5, 5, 7, 12]
    [(2, "ID-CCT-PKIDATA"), (3, "ID-CCT-PKIRESPONSE")]

/-- Faults in certificate requests. -/
def requestFaults : Names := below [1, 3, 6, 1, 5, 5, 7, 15] [(1, "ID-CET-SKDFAILINFO")]

/-- Checks in the validation of certificates. -/
def validationChecks : Names :=
  row [1, 3, 6, 1, 5, 5, 7, 17] 1
    ["ID-STC-BUILD-PKC-PATH", "ID-STC-BUILD-VALID-PKC-PATH", "ID-STC-BUILD-STATUS-CHECKED-PKC-PATH",
     "ID-STC-BUILD-AA-PATH", "ID-STC-BUILD-VALID-AA-PATH", "ID-STC-BUILD-STATUS-CHECKED-AA-PATH",
     "ID-STC-STATUS-CHECK-AC-AND-BUILD-STATUS-CHECKED-AA-PATH"]

/-- Results that the validation of certificates can return. -/
def validationResults : Names :=
  below [1, 3, 6, 1, 5, 5, 7, 18]
    [(1, "ID-SWB-PKC-BEST-CERT-PATH"), (2, "ID-SWB-PKC-REVOCATION-INFO"),
     (4, "ID-SWB-PKC-PUBLIC-KEY-INFO"), (5, "ID-SWB-AA-CERT-PATH"), (6, "ID-SWB-AA-REVOCATION-INFO"),
     (7, "ID-SWB-AC-REVOCATION-INFO"), (9, "ID-SWB-RELAYED-RESPONSES"), (10, "ID-SWB-PKC-CERT"),
     (11, "ID-SWB-AC-CERT"), (12, "ID-SWB-PKC-ALL-CERT-PATHS"), (13, "ID-SWB-PKC-EE-REVOCATION-INFO"),
     (14, "ID-SWB-PKC-CAS-REVOCATION-INFO")]

/-- Policies for the validation of certificates. -/
def validationPolicies : Names :=
  below [1, 3, 6, 1, 5, 5, 7, 19]
    [(1, "ID-SVP-DEFAULTVALPOLICY"), (2, "ID-NVAE"), (3, "ID-BVAE"), (4, "ID-DNVAE")]

/-- Kinds of access to information. -/
def accessDescriptions : Names :=
  below [1, 3, 6, 1, 5, 5, 7, 48]
    [(1, "ID-AD-OCSP"), (2, "ID-AD-CAISSUERS"), (3, "ID-AD-TIMESTAMPING"), (5, "ID-AD-CAREPOSITORY")]

/-- Parts of certificate status messages. -/
def statusProtocol : Names :=
  row [1, 3, 6, 1, 5, 5, 7, 48, 1] 1
    ["ID-PKIX-OCSP-BASIC", "ID-PKIX-OCSP-NONCE", "ID-PKIX-OCSP-CRL", "ID-PKIX-OCSP-RESPONSE",
     "ID-PKIX-OCSP-NOCHECK", "ID-PKIX-OCSP-ARCHIVE-CUTOFF", "ID-PKIX-OCSP-SERVICE-LOCATOR",
     "ID-PKIX-OCSP-PREF-SIG-ALGS", "ID-PKIX-OCSP-EXTENDED-REVOKE"]

/-- Extensions of certificates and revocation lists. -/
def standardExtensions : Names :=
  below [2, 5, 29]
    [(9, "ID-CE-SUBJECTDIRECTORYATTRIBUTES"), (14, "ID-CE-SUBJECTKEYIDENTIFIER"),
     (15, "ID-CE-KEYUSAGE"), (16, "ID-CE-PRIVATEKEYUSAGEPERIOD"), (17, "ID-CE-SUBJECTALTNAME"),
     (18, "ID-CE-ISSUERALTNAME"), (19, "ID-CE-BASICCONSTRAINTS"), (20, "ID-CE-CRLNUMBER"),
     (21, "ID-CE-CRLREASONS"), (23, "ID-CE-HOLDINSTRUCTIONCODE"), (24, "ID-CE-INVALIDITYDATE"),
     (27, "ID-CE-DELTACRLINDICATOR"), (28, "ID-CE-ISSUINGDISTRIBUTIONPOINT"),
     (29, "ID-CE-CERTIFICATEISSUER"), (30, "ID-CE-NAMECONSTRAINTS"),
     (31, "ID-CE-CRLDISTRIBUTIONPOINTS"), (32, "ID-CE-CERTIFICATEPOLICIES"),
     (33, "ID-CE-POLICYMAPPINGS"), (35, "ID-CE-AUTHORITYKEYIDENTIFIER"),
     (36, "ID-CE-POLICYCONSTRAINTS"), (37, "ID-CE-EXTKEYUSAGE"), (46, "ID-CE-FRESHESTCRL"),
     (54, "ID-CE-INHIBITANYPOLICY"), (55, "ID-CE-TARGETINFORMATION"), (56, "ID-CE-NOREVAVAIL")]

/-- Values of extensions that restrict nothing. -/
def unrestrictedValues : Names :=
  beneath [2, 5, 29]
    [([32, 0], "ANYPOLICY"), ([37, 0], "ANYEXTENDEDKEYUSAGE")]

/-- What to do with a certificate that is on hold. -/
def holdInstructions : Names :=
  beneath [2, 2, 840, 10040]
    [([2], "HOLDINSTRUCTION"), ([2, 1], "ID-HOLDINSTRUCTION-NONE"),
     ([2, 2], "ID-HOLDINSTRUCTION-CALLISSUER"), ([2, 3], "ID-HOLDINSTRUCTION-REJECT")]

/-- Extensions of logged certificates. -/
def transparencyExtensions : Names :=
  row [1, 3, 6, 1, 4, 1, 11129, 2, 4] 2
    ["CT-PRECERT-SCTS", "CT-PRECERT-POISON", "CT-PRECERT-SIGNING-CERT"]

/-- The names in certificates. -/
def certificateNames : Names :=
  certificateRoots ++ certificateBranches ++ accessBranch ++ privateExtensions ++ policyQualifiers ++
    keyPurposes ++ managementInformation ++ registrationBranches ++ registrationControls ++
    registrationInformation ++ requestAlgorithms ++ requestControls ++ keyGroupControls ++
    otherNames ++ attributeCertificateAttributes ++ requestContents ++ requestFaults ++
    validationChecks ++ validationResults ++ validationPolicies ++ accessDescriptions ++
    statusProtocol ++ standardExtensions ++ unrestrictedValues ++ holdInstructions ++
    transparencyExtensions

end SealedLink.Asn1.ObjectId
