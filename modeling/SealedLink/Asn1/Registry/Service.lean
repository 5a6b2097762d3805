import SealedLink.Asn1.Registry.Basic

/-!
# Names in directories of services

Attributes and classes that services keep in a directory: calendars, gateways, policies, businesses,
mail, file systems and printers.

## Main definitions

* `ObjectId.serviceNames` — all of them together
-/

namespace SealedLink.Asn1.ObjectId

/-- Addresses of calendars. -/
def calendarAttributes : Names :=
  below [1, 2, 840, 113556, 1, 4]
    [(478, "CALCALURI"), (479, "CALFBURL"), (480, "CALCAPURI"), (481, "CALCALADRURI"),
     (482, "CALOTHERCALURIS"), (483, "CALOTHERFBURLS"), (484, "CALOTHERCAPURIS"),
     (485, "CALOTHERCALADRURIS")]

/-- The class of entries with a calendar. -/
def calendarClasses : Names := below [1, 2, 840, 113556, 1, 5] [(87, "CALENTRY")]

/-- Classes of tables and of gateways between mail systems. -/
def mailTableClasses : Names :=
  below [1, 3, 6, 1, 4, 1, 453, 7, 1]
    [(1, "SUBTREE"), (2, "TABLE"), (3, "TABLEENTRY"), (4, "MIXERGATEWAY"),
     (5, "DISTINGUISHEDNAMETABLEENTRY")]

/-- Attributes of tables and of gateways between mail systems. -/
def mailTableAttributes : Names :=
  below [1, 3, 6, 1, 4, 1, 453, 7, 2]
    [(1, "TEXTTABLEKEY"), (2, "TEXTTABLEVALUE"), (3, "ASSOCIATEDX400GATEWAY"),
     (6, "ASSOCIATEDORADDRESS"), (7, "ORADDRESSCOMPONENTTYPE"), (8, "ASSOCIATEDINTERNETGATEWAY"),
     (9, "MCGAMTABLES")]

/-- Classes of policies and their rules. -/
def policyClasses : Names :=
  row [1, 3, 6, 1, 1, 6, 1] 1
    ["PCIMPOLICY", "PCIMGROUP", "PCIMGROUPAUXCLASS", "PCIMGROUPINSTANCE", "PCIMRULE",
     "PCIMRULEAUXCLASS", "PCIMRULEINSTANCE", "PCIMRULECONDITIONASSOCIATION",
     "PCIMRULEVALIDITYASSOCIATION", "PCIMRULEACTIONASSOCIATION", "PCIMCONDITIONAUXCLASS",
     "PCIMTPCAUXCLASS", "PCIMCONDITIONVENDORAUXCLASS", "PCIMACTIONAUXCLASS", "PCIMACTIONVENDORAUXCLASS",
     "PCIMPOLICYINSTANCE", "PCIMELEMENTAUXCLASS", "PCIMREPOSITORY", "PCIMREPOSITORYAUXCLASS",
     "PCIMREPOSITORYINSTANCE", "PCIMSUBTREESPTRAUXCLASS", "PCIMGROUPCONTAINMENTAUXCLASS",
     "PCIMRULECONTAINMENTAUXCLASS"]

/-- Attributes of policies and their rules. -/
def policyAttributes : Names :=
  row [1, 3, 6, 1, 1, 6, 2] 3
    ["PCIMKEYWORDS", "PCIMGROUPNAME", "PCIMRULENAME", "PCIMRULEENABLED", "PCIMRULECONDITIONLISTTYPE",
     "PCIMRULECONDITIONLIST", "PCIMRULEACTIONLIST", "PCIMRULEVALIDITYPERIODLIST", "PCIMRULEUSAGE",
     "PCIMRULEPRIORITY", "PCIMRULEMANDATORY", "PCIMRULESEQUENCEDACTIONS", "PCIMROLES",
     "PCIMCONDITIONGROUPNUMBER", "PCIMCONDITIONNEGATED", "PCIMCONDITIONNAME", "PCIMCONDITIONDN",
     "PCIMVALIDITYCONDITIONNAME", "PCIMTIMEPERIODCONDITIONDN", "PCIMACTIONNAME", "PCIMACTIONORDER",
     "PCIMACTIONDN", "PCIMTPCTIME", "PCIMTPCMONTHOFYEARMASK", "PCIMTPCDAYOFMONTHMASK",
     "PCIMTPCDAYOFWEEKMASK", "PCIMTPCTIMEOFDAYMASK", "PCIMTPCLOCALORUTCTIME",
     "PCIMVENDORCONSTRAINTDATA", "PCIMVENDORCONSTRAINTENCODING", "PCIMVENDORACTIONDATA",
     "PCIMVENDORACTIONENCODING", "PCIMPOLICYINSTANCENAME", "PCIMREPOSITORYNAME",
     "PCIMSUBTREESAUXCONTAINEDSET", "PCIMGROUPSAUXCONTAINEDSET", "PCIMRULESAUXCONTAINEDSET"]

/-- Further classes of policies, of variables and of filters. -/
def policyExtensionClasses : Names :=
  row [1, 3, 6, 1, 1, 9, 1] 1
    ["PCELSPOLICYSET", "PCELSPOLICYSETASSOCIATION", "PCELSGROUP", "PCELSGROUPAUXCLASS",
     "PCELSGROUPINSTANCE", "PCELSRULE", "PCELSRULEAUXCLASS", "PCELSRULEINSTANCE",
     "PCELSCONDITIONASSOCIATION", "PCELSACTIONASSOCIATION", "PCELSSIMPLECONDITIONAUXCLASS",
     "PCELSCOMPOUNDCONDITIONAUXCLASS", "PCELSCOMPOUNDFILTERCONDITIONAUXCLASS",
     "PCELSSIMPLEACTIONAUXCLASS", "PCELSCOMPOUNDACTIONAUXCLASS", "PCELSVARIABLE",
     "PCELSEXPLICITVARIABLEAUXCLASS", "PCELSIMPLICITVARIABLEAUXCLASS",
     "PCELSSOURCEIPV4VARIABLEAUXCLASS", "PCELSSOURCEIPV6VARIABLEAUXCLASS",
     "PCELSDESTINATIONIPV4VARIABLEAUXCLASS", "PCELSDESTINATIONIPV6VARIABLEAUXCLASS",
     "PCELSSOURCEPORTVARIABLEAUXCLASS", "PCELSDESTINATIONPORTVARIABLEAUXCLASS",
     "PCELSIPPROTOCOLVARIABLEAUXCLASS", "PCELSIPVERSIONVARIABLEAUXCLASS", "PCELSIPTOSVARIABLEAUXCLASS",
     "PCELSDSCPVARIABLEAUXCLASS", "PCELSFLOWIDVARIABLEAUXCLASS", "PCELSSOURCEMACVARIABLEAUXCLASS",
     "PCELSDESTINATIONMACVARIABLEAUXCLASS", "PCELSVLANVARIABLEAUXCLASS", "PCELSCOSVARIABLEAUXCLASS",
     "PCELSETHERTYPEVARIABLEAUXCLASS", "PCELSSOURCESAPVARIABLEAUXCLASS",
     "PCELSDESTINATIONSAPVARIABLEAUXCLASS", "PCELSSNAPOUIVARIABLEAUXCLASS",
     "PCELSSNAPTYPEVARIABLEAUXCLASS", "PCELSFLOWDIRECTIONVARIABLEAUXCLASS", "PCELSVALUEAUXCLASS",
     "PCELSIPV4ADDRVALUEAUXCLASS", "PCELSIPV6ADDRVALUEAUXCLASS", "PCELSMACADDRVALUEAUXCLASS",
     "PCELSSTRINGVALUEAUXCLASS", "PCELSBITSTRINGVALUEAUXCLASS", "PCELSINTEGERVALUEAUXCLASS",
     "PCELSBOOLEANVALUEAUXCLASS", "PCELSREUSABLECONTAINER", "PCELSREUSABLECONTAINERAUXCLASS",
     "PCELSREUSABLECONTAINERINSTANCE", "PCELSROLECOLLECTION", "PCELSFILTERENTRYBASE",
     "PCELSIPHEADERSFILTER", "PCELS8021FILTER", "PCELSFILTERLISTAUXCLASS",
     "PCELSVENDORVARIABLEAUXCLASS", "PCELSVENDORVALUEAUXCLASS"]

/-- Further attributes of policies, of variables and of filters. -/
def policyExtensionAttributes : Names :=
  row [1, 3, 6, 1, 1, 9, 2] 1
    ["PCELSPOLICYSETNAME", "PCELSDECISIONSTRATEGY", "PCELSPOLICYSETLIST", "PCELSPRIORITY",
     "PCELSPOLICYSETDN", "PCELSCONDITIONLISTTYPE", "PCELSCONDITIONLIST", "PCELSACTIONLIST",
     "PCELSSEQUENCEDACTIONS", "PCELSEXECUTIONSTRATEGY", "PCELSVARIABLEDN", "PCELSVALUEDN",
     "PCELSISMIRRORED", "PCELSVARIABLENAME", "PCELSEXPECTEDVALUELIST", "PCELSVARIABLEMODELCLASS",
     "PCELSVARIABLEMODELPROPERTY", "PCELSEXPECTEDVALUETYPES", "PCELSVALUENAME", "PCELSIPV4ADDRLIST",
     "PCELSIPV6ADDRLIST", "PCELSMACADDRLIST", "PCELSSTRINGLIST", "PCELSBITSTRINGLIST",
     "PCELSINTEGERLIST", "PCELSBOOLEAN", "PCELSREUSABLECONTAINERNAME", "PCELSREUSABLECONTAINERLIST",
     "PCELSROLE", "PCELSROLECOLLECTIONNAME", "PCELSELEMENTLIST", "PCELSFILTERNAME",
     "PCELSFILTERISNEGATED", "PCELSIPHDRVERSION", "PCELSIPHDRSOURCEADDRESS",
     "PCELSIPHDRSOURCEADDRESSENDOFRANGE", "PCELSIPHDRSOURCEMASK", "PCELSIPHDRDESTADDRESS",
     "PCELSIPHDRDESTADDRESSENDOFRANGE", "PCELSIPHDRDESTMASK", "PCELSIPHDRPROTOCOLID",
     "PCELSIPHDRSOURCEPORTSTART", "PCELSIPHDRSOURCEPORTEND", "PCELSIPHDRDESTPORTSTART",
     "PCELSIPHDRDESTPORTEND", "PCELSIPHDRDSCPLIST", "PCELSIPHDRFLOWLABEL",
     "PCELS8021HDRSOURCEMACADDRESS", "PCELS8021HDRSOURCEMACMASK", "PCELS8021HDRDESTMACADDRESS",
     "PCELS8021HDRDESTMACMASK", "PCELS8021HDRPROTOCOLID", "PCELS8021HDRPRIORITY", "PCELS8021HDRVLANID",
     "PCELSFILTERLISTNAME", "PCELSFILTERDIRECTION", "PCELSFILTERENTRYLIST", "PCELSVENDORVARIABLEDATA",
     "PCELSVENDORVARIABLEENCODING", "PCELSVENDORVALUEDATA", "PCELSVENDORVALUEENCODING"]

/-- Attributes of businesses and their services. -/
def businessAttributes : Names :=
  row [1, 3, 6, 1, 1, 10, 4] 1
    ["UDDIBUSINESSKEY", "UDDIAUTHORIZEDNAME", "UDDIOPERATOR", "UDDINAME", "UDDIDESCRIPTION",
     "UDDIDISCOVERYURLS", "UDDIUSETYPE", "UDDIPERSONNAME", "UDDIPHONE", "UDDIEMAIL", "UDDISORTCODE",
     "UDDITMODELKEY", "UDDIADDRESSLINE", "UDDIIDENTIFIERBAG", "UDDICATEGORYBAG", "UDDIKEYEDREFERENCE",
     "UDDISERVICEKEY", "UDDIBINDINGKEY", "UDDIACCESSPOINT", "UDDIHOSTINGREDIRECTOR",
     "UDDIINSTANCEDESCRIPTION", "UDDIINSTANCEPARMS", "UDDIOVERVIEWDESCRIPTION", "UDDIOVERVIEWURL",
     "UDDIFROMKEY", "UDDITOKEY", "UDDIUUID", "UDDIISHIDDEN", "UDDIISPROJECTION", "UDDILANG",
     "UDDIV3BUSINESSKEY", "UDDIV3SERVICEKEY", "UDDIV3BINDINGKEY", "UDDIV3TMODELKEY",
     "UDDIV3DIGITALSIGNATURE", "UDDIV3NODEID", "UDDIV3ENTITYMODIFICATIONTIME", "UDDIV3SUBSCRIPTIONKEY",
     "UDDIV3SUBSCRIPTIONFILTER", "UDDIV3NOTIFICATIONINTERVAL", "UDDIV3MAXENTITIES",
     "UDDIV3EXPIRESAFTER", "UDDIV3BRIEFRESPONSE", "UDDIV3ENTITYKEY", "UDDIV3ENTITYCREATIONTIME",
     "UDDIV3ENTITYDELETIONTIME"]

/-- Classes of businesses and their services. -/
def businessClasses : Names :=
  row [1, 3, 6, 1, 1, 10, 6] 1
    ["UDDIBUSINESSENTITY", "UDDICONTACT", "UDDIADDRESS", "UDDIBUSINESSSERVICE", "UDDIBINDINGTEMPLATE",
     "UDDITMODELINSTANCEINFO", "UDDITMODEL", "UDDIPUBLISHERASSERTION", "UDDIV3SUBSCRIPTION",
     "UDDIV3ENTITYOBITUARY"]

/-- How entries of businesses and their services are named. -/
def businessNameForms : Names :=
  row [1, 3, 6, 1, 1, 10, 15] 1
    ["UDDIBUSINESSENTITYNAMEFORM", "UDDICONTACTNAMEFORM", "UDDIADDRESSNAMEFORM",
     "UDDIBUSINESSSERVICENAMEFORM", "UDDIBINDINGTEMPLATENAMEFORM", "UDDITMODELINSTANCEINFONAMEFORM",
     "UDDITMODELNAMEFORM", "UDDIPUBLISHERASSERTIONNAMEFORM", "UDDIV3SUBSCRIPTIONNAMEFORM",
     "UDDIV3ENTITYOBITUARYNAMEFORM"]

/-- The class of users of voice mail. -/
def voiceMailClasses : Names := below [1, 3, 6, 1, 1, 11, 1, 1] [(1, "VPIMUSER")]

/-- Attributes of users of voice mail. -/
def voiceMailAttributes : Names :=
  row [1, 3, 6, 1, 1, 11, 1, 2] 1
    ["VPIMTELEPHONENUMBER", "VPIMRFC822MAILBOX", "VPIMSPOKENNAME", "VPIMSUPPORTEDUABEHAVIORS",
     "VPIMSUPPORTEDAUDIOMEDIATYPES", "VPIMSUPPORTEDMESSAGECONTEXT", "VPIMTEXTNAME",
     "VPIMEXTENDEDABSENCESTATUS", "VPIMMAXMESSAGESIZE", "VPIMSUBMAILBOXES"]

/-- Addresses for chat. -/
def chatIdentifiers : Names := row [1, 3, 6, 1, 1, 23] 1 ["JIDOBJECT", "JID"]

/-- Classes of providers of certified mail. -/
def mailProviderClasses : Names :=
  row [1, 3, 6, 1, 4, 1, 16572, 2, 1] 1
    ["LDIFLOCATIONURLOBJECT", "PROVIDER"]

/-- Attributes of providers of certified mail. -/
def mailProviderAttributes : Names :=
  row [1, 3, 6, 1, 4, 1, 16572, 2, 2] 1
    ["PROVIDERCERTIFICATEHASH", "PROVIDERCERTIFICATE", "PROVIDERNAME", "MAILRECEIPT", "MANAGEDDOMAINS",
     "LDIFLOCATIONURL", "PROVIDERUNIT"]

/-- Attributes of the profile of a directory client. -/
def clientProfileAttributes : Names :=
  below [1, 3, 6, 1, 4, 1, 11, 1, 3, 1, 1]
    [(0, "DEFAULTSERVERLIST"), (1, "DEFAULTSEARCHBASE"), (2, "PREFERREDSERVERLIST"),
     (3, "SEARCHTIMELIMIT"), (4, "BINDTIMELIMIT"), (5, "FOLLOWREFERRALS"), (6, "AUTHENTICATIONMETHOD"),
     (7, "PROFILETTL"), (9, "ATTRIBUTEMAP"), (10, "CREDENTIALLEVEL"), (11, "OBJECTCLASSMAP"),
     (12, "DEFAULTSEARCHSCOPE"), (13, "SERVICECREDENTIALLEVEL"), (14, "SERVICESEARCHDESCRIPTOR"),
     (15, "SERVICEAUTHENTICATIONMETHOD"), (16, "DEREFERENCEALIASES")]

/-- The class of profiles of a directory client. -/
def clientProfileClasses : Names := below [1, 3, 6, 1, 4, 1, 11, 1, 3, 1, 2] [(5, "DUACONFIGPROFILE")]

/-- Attributes of federated file systems. -/
def fileServiceAttributes : Names :=
  row [1, 3, 6, 1, 4, 1, 31103, 1] 1
    ["FEDFSUUID", "FEDFSNETADDR", "FEDFSNETPORT", "FEDFSFSNUUID", "FEDFSNSDBNAME", "FEDFSNSDBPORT",
     "FEDFSNCEPREFIX", "FEDFSFSLUUID", "FEDFSFSLHOST", "FEDFSFSLPORT", "FEDFSFSLTTL", "FEDFSANNOTATION",
     "FEDFSDESCR", "FEDFSNCEDN", "FEDFSFSNTTL"]

/-- Attributes of locations in federated file systems. -/
def fileLocationAttributes : Names :=
  row [1, 3, 6, 1, 4, 1, 31103, 1] 100
    ["FEDFSNFSPATH", "FEDFSNFSMAJORVER", "FEDFSNFSMINORVER", "FEDFSNFSCURRENCY",
     "FEDFSNFSGENFLAGWRITABLE", "FEDFSNFSGENFLAGGOING", "FEDFSNFSGENFLAGSPLIT", "FEDFSNFSTRANSFLAGRDMA",
     "FEDFSNFSCLASSSIMUL", "FEDFSNFSCLASSHANDLE", "FEDFSNFSCLASSFILEID", "FEDFSNFSCLASSWRITEVER",
     "FEDFSNFSCLASSCHANGE", "FEDFSNFSCLASSREADDIR", "FEDFSNFSREADRANK", "FEDFSNFSREADORDER",
     "FEDFSNFSWRITERANK", "FEDFSNFSWRITEORDER", "FEDFSNFSVARSUB", "FEDFSNFSVALIDFOR", "FEDFSNFSURI"]

/-- Classes of federated file systems. -/
def fileServiceClasses : Names :=
  row [1, 3, 6, 1, 4, 1, 31103, 1] 1001
    ["FEDFSNSDBCONTAINERINFO", "FEDFSFSN", "FEDFSFSL", "FEDFSNFSFSL"]

/-- Attributes of printers. -/
def printerAttributes : Names :=
  row [1, 3, 18, 0, 2, 4] 1107
    ["PRINTER-XRI-SUPPORTED", "PRINTER-ALIASES", "PRINTER-CHARSET-CONFIGURED",
     "PRINTER-JOB-PRIORITY-SUPPORTED", "PRINTER-JOB-K-OCTETS-SUPPORTED", "PRINTER-CURRENT-OPERATOR",
     "PRINTER-SERVICE-PERSON", "PRINTER-DELIVERY-ORIENTATION-SUPPORTED",
     "PRINTER-STACKING-ORDER-SUPPORTED", "PRINTER-OUTPUT-FEATURES-SUPPORTED",
     "PRINTER-MEDIA-LOCAL-SUPPORTED", "PRINTER-COPIES-SUPPORTED", "PRINTER-NATURAL-LANGUAGE-CONFIGURED",
     "PRINTER-PRINT-QUALITY-SUPPORTED", "PRINTER-RESOLUTION-SUPPORTED", "PRINTER-MEDIA-SUPPORTED",
     "PRINTER-SIDES-SUPPORTED", "PRINTER-NUMBER-UP-SUPPORTED", "PRINTER-FINISHINGS-SUPPORTED",
     "PRINTER-PAGES-PER-MINUTE-COLOR", "PRINTER-PAGES-PER-MINUTE", "PRINTER-COMPRESSION-SUPPORTED",
     "PRINTER-COLOR-SUPPORTED", "PRINTER-DOCUMENT-FORMAT-SUPPORTED", "PRINTER-CHARSET-SUPPORTED",
     "PRINTER-MULTIPLE-DOCUMENT-JOBS-SUPPORTED", "PRINTER-IPP-VERSIONS-SUPPORTED", "PRINTER-MORE-INFO",
     "PRINTER-NAME", "PRINTER-LOCATION", "PRINTER-GENERATED-NATURAL-LANGUAGE-SUPPORTED",
     "PRINTER-MAKE-AND-MODEL", "PRINTER-INFO", "PRINTER-URI"]

/-- Classes of printers. -/
def printerClasses : Names :=
  row [1, 3, 18, 0, 2, 6] 253
    ["PRINTERLPR", "SLPSERVICEPRINTER", "PRINTERSERVICE", "PRINTERIPP", "PRINTERSERVICEAUXCLASS",
     "PRINTERABSTRACT"]

/-- Further attributes of printers. -/
def printerDeviceAttributes : Names :=
  below [1, 3, 18, 0, 2, 24, 46, 1]
    [(101, "PRINTER-DEVICE-ID"), (102, "PRINTER-DEVICE-SERVICE-COUNT"), (104, "PRINTER-UUID"),
     (105, "PRINTER-CHARGE-INFO"), (106, "PRINTER-CHARGE-INFO-URI"), (107, "PRINTER-GEO-LOCATION"),
     (108, "PRINTER-IPP-FEATURES-SUPPORTED")]

/-- The names in directories of services. -/
def serviceNames : Names :=
  calendarAttributes ++ calendarClasses ++ mailTableClasses ++ mailTableAttributes ++ policyClasses ++
    policyAttributes ++ policyExtensionClasses ++ policyExtensionAttributes ++ businessAttributes ++
    businessClasses ++ businessNameForms ++ voiceMailClasses ++ voiceMailAttributes ++
    chatIdentifiers ++ mailProviderClasses ++ mailProviderAttributes ++ clientProfileAttributes ++
    clientProfileClasses ++ fileServiceAttributes ++ fileLocationAttributes ++ fileServiceClasses ++
    printerAttributes ++ printerClasses ++ printerDeviceAttributes

end SealedLink.Asn1.ObjectId
